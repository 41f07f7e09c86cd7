import ArcdpsHealing.Sequencer.Concurrent

namespace ArcdpsHealing.Sequencer

open Lib

def Label.called : Label → Option Nat
  | .call c => some c.id
  | .internal | .submit _ | .register _ | .fetch _ | .ret _ => none

def Label.returned : Label → Option Nat
  | .ret c => some c.id
  | .internal | .submit _ | .register _ | .fetch _ | .call _ => none

def Label.base : Label → Option Nat
  | .register base => some base
  | .internal | .submit _ | .fetch _ | .call _ | .ret _ => none

def called (ls : List Label) : List Nat := ls.filterMap Label.called

def returned (ls : List Label) : List Nat := ls.filterMap Label.returned

def bases (ls : List Label) : List Nat := ls.filterMap Label.base

section History

variable (ls : List Label) (l : Label)

theorem called_snoc : called (ls ++ [l]) = called ls ++ l.called.toList := by
  cases l <;> simp [called, Label.called]

theorem returned_snoc : returned (ls ++ [l]) = returned ls ++ l.returned.toList := by
  cases l <;> simp [returned, Label.returned]

theorem bases_snoc : bases (ls ++ [l]) = bases ls ++ l.base.toList := by
  cases l <;> simp [bases, Label.base]

end History

inductive Phase
  | mine | delivering | delivered | parked
  deriving DecidableEq

structure Role where
  phase : Phase
  /-- Nothing has been read from `mHighestId` but its initial value. -/
  early : Prop := False
  shares : Prop := False
  owns : Prop := False
  /-- No test has failed that should not. -/
  sound : Prop := True
  /-- About to deliver an event that belongs before the first one registered. -/
  direct : Prop := False
  /-- On the fast path, before `mHighestId` is advanced. -/
  fast : Prop := False
  /-- Between finding its id ahead of the first one registered and either
  leaving an event in the queue or having looked at the whole of it. -/
  engaged : Prop := False
  /-- The local `current` on the way to the queue. -/
  current : Option Nat := none
  /-- `current` while it is known to lie before the predecessor of the id. -/
  behind : Option Nat := none
  /-- The slot the call was given and has not let go of. -/
  index : Option Slot := none
  eventCount : Option EventCount := none
  /-- The slot whose event a flush is to deliver, or is delivering. -/
  delayed : Option Slot := none
  /-- The same, once its callback has started. -/
  underway : Option Slot := none

def Pc.role : Pc → Role
  | .idle => { phase := .mine, early := True }
  | .load => { phase := .mine, early := True }
  | .registerFirst => { phase := .mine, early := True }
  | .invoke b =>
    { phase := .mine, shares := b = .overflow, sound := b = .twice ∨ b = .lower ∨ b = .fastPath
      direct := b = .twice ∨ b = .lower, fast := b = .fastPath, engaged := b = .fastPath }
  | .returning b =>
    { phase := .delivering, shares := b = .overflow
      sound := b = .twice ∨ b = .lower ∨ b = .fastPath, fast := b = .fastPath
      engaged := b = .fastPath }
  | .advance => { phase := .delivered, fast := True, engaged := True }
  | .lockShared c => { phase := .mine, engaged := True, current := some c, behind := some c }
  | .recheck c =>
    { phase := .mine, shares := True, engaged := True, current := some c, behind := some c }
  | .reserve c =>
    { phase := .mine, shares := True, engaged := True, current := some c, behind := some c }
  | .confirm c i =>
    { phase := .mine, shares := True, engaged := True, current := some c, behind := some c
      index := some i }
  | .discard c i =>
    { phase := .mine, shares := True, engaged := True, current := some c, index := some i }
  | .retry c => { phase := .mine, shares := True, engaged := True, current := some c }
  | .store i => { phase := .mine, shares := True, engaged := True, index := some i }
  | .release => { phase := .parked, shares := True }
  | .probe => { phase := .delivered, engaged := True }
  | .lockExclusive => { phase := .delivered, engaged := True }
  | .count => { phase := .delivered, owns := True, engaged := True }
  | .scan n _ _ _ =>
    { phase := .delivered, owns := True, engaged := True, eventCount := some n }
  | .invokeDelayed n i _ =>
    { phase := .delivered, owns := True, engaged := True, eventCount := some n
      delayed := some i }
  | .returningDelayed n i _ =>
    { phase := .delivered, owns := True, engaged := True, eventCount := some n
      delayed := some i, underway := some i }
  | .advanceDelayed n i _ =>
    { phase := .delivered, owns := True, engaged := True, eventCount := some n
      delayed := some i, underway := some i }
  | .reset => { phase := .delivered, owns := True, engaged := True }
  | .compare _ => { phase := .delivered, owns := True }
  | .raise _ => { phase := .delivered, owns := True }
  | .unlock => { phase := .delivered, owns := True }
  | .done => { phase := .parked }
  | .assertFailed => { phase := .parked, sound := False }

def Pc.Visits (p : Pc) (i : Slot) : Prop :=
  p = .probe ∨ p = .lockExclusive ∨ p = .count ∨
    (∃ n j removed z, p = .scan n j removed z ∧ (j ≤ i ∨ removed = true)) ∨ p.role.delayed ≠ none

structure Role.Coherent (r : Role) : Prop where
  early : r.early → r.phase = .mine ∧ ¬ r.direct ∧ ¬ r.engaged ∧ ¬ r.fast ∧ r.current = none ∧
    r.delayed = none
  fast : r.fast → r.phase ≠ .parked
  delayed : ∀ i, r.delayed = some i → r.owns
  eventCount : ∀ n, r.eventCount = some n → r.owns
  underway : ∀ i, r.underway = some i → r.delayed = some i
  index : ∀ i, r.index = some i → r.shares

namespace Pc

variable {p : Pc} {i : Slot} {n : EventCount}

theorem coherent_role (p : Pc) : p.role.Coherent := by
  cases p <;> constructor <;> simp [Pc.role]

theorem of_early (h : p.role.early) :
    p.role.phase = .mine ∧ ¬ p.role.direct ∧ ¬ p.role.engaged ∧ ¬ p.role.fast ∧
      p.role.current = none ∧ p.role.delayed = none :=
  p.coherent_role.early h

theorem of_fast (h : p.role.fast) : p.role.phase ≠ .parked := p.coherent_role.fast h

theorem owns_of_delayed (h : p.role.delayed = some i) : p.role.owns := p.coherent_role.delayed i h

theorem owns_of_eventCount (h : p.role.eventCount = some n) : p.role.owns :=
  p.coherent_role.eventCount n h

theorem delayed_of_underway (h : p.role.underway = some i) : p.role.delayed = some i :=
  p.coherent_role.underway i h

theorem shares_of_index (h : p.role.index = some i) : p.role.shares := p.coherent_role.index i h

end Pc

theorem route_cases {k : Nat} (pos : 0 < k) (c : Nat) :
    (c = k ∧ route k c = .invoke .twice) ∨
    (c ≠ k ∧ c = unregistered ∧ route k c = .registerFirst) ∨
    (k < c ∧ c ≠ unregistered ∧ route k c = .invoke .lower) ∨
    (c + 1 = k ∧ c ≠ unregistered ∧ route k c = .invoke .fastPath) ∨
    (c + 1 < k ∧ c ≠ unregistered ∧ route k c = .lockShared c) := by
  unfold route
  by_cases twice : c = k
  · exact .inl ⟨twice, if_pos twice⟩
  by_cases fresh : c = unregistered
  · exact .inr (.inl ⟨twice, fresh, by rw [if_neg twice, if_pos fresh]⟩)
  rw [if_neg twice, if_neg fresh]
  by_cases lower : k < c
  · exact .inr (.inr (.inl ⟨lower, fresh, if_pos (by omega)⟩))
  rw [if_neg (by omega)]
  by_cases next : c + 1 = k
  · exact .inr (.inr (.inr (.inl ⟨next, fresh, if_pos (by omega)⟩)))
  · exact .inr (.inr (.inr (.inr ⟨by omega, fresh, if_neg (by omega)⟩)))

theorem phase_route {k : Nat} (pos : 0 < k) (c : Nat) : (route k c).role.phase = .mine := by
  obtain ⟨-, h⟩ | ⟨-, -, h⟩ | ⟨-, -, h⟩ | ⟨-, -, h⟩ | ⟨-, -, h⟩ := route_cases pos c
  all_goals
    rw [h]
    rfl

theorem phase_inspect (st : State) (n : EventCount) (i : Slot) (removed : Bool) (z : Nat) :
    (inspect st n i removed z).role.phase = .delivered := by
  unfold inspect
  split
  · rfl
  · split <;> rfl

theorem phase_scanEnd (n : EventCount) (removed : Bool) (z : Nat) :
    (scanEnd n removed z).role.phase = .delivered := by
  unfold scanEnd
  split
  · rfl
  · split <;> rfl

end ArcdpsHealing.Sequencer
