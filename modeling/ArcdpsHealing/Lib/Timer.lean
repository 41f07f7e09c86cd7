import Mathlib.Tactic.Basic

namespace ArcdpsHealing.Lib

/-- A wait takes the signal, and setting the timer takes it back. -/
structure Timer where
  now : Nat := 0
  signalled : Bool := false
  due : Option Nat := none
  deriving DecidableEq

namespace Timer

def set (t : Timer) (delay : Nat) : Timer :=
  if delay = 0 then { t with signalled := true, due := none }
  else { t with signalled := false, due := some (t.now + delay) }

def tick (t : Timer) : Timer :=
  if t.due = some (t.now + 1) then ⟨t.now + 1, true, none⟩ else { t with now := t.now + 1 }

def take (t : Timer) : Timer := { t with signalled := false }

def EndsBy (t : Timer) (limit : Nat) : Prop :=
  t.signalled ∨ ∃ d, t.due = some d ∧ t.now < d ∧ d ≤ limit

variable {t : Timer} {limit : Nat}

@[simp] theorem now_set (delay : Nat) : (t.set delay).now = t.now := by
  unfold set
  split <;> rfl

@[simp] theorem now_tick : t.tick.now = t.now + 1 := by
  unfold tick
  split <;> rfl

@[simp] theorem now_take : t.take.now = t.now := rfl

theorem endsBy_set_zero : (t.set 0).EndsBy limit := .inl rfl

theorem endsBy_set (delay : Nat) : (t.set delay).EndsBy (t.now + delay) := by
  unfold set
  split
  · exact .inl rfl
  · exact .inr ⟨t.now + delay, rfl, Nat.lt_add_of_pos_right (Nat.pos_of_ne_zero ‹_›), Nat.le_refl _⟩

theorem EndsBy.tick (ends : t.EndsBy limit) : t.tick.EndsBy limit := by
  unfold Timer.tick
  split
  · exact .inl rfl
  · rename_i later
    rcases ends with signalled | ⟨d, due, future, bound⟩
    · exact .inl signalled
    · refine .inr ⟨d, due, Nat.lt_of_le_of_ne future fun same => later ?_, bound⟩
      exact due.trans (congrArg some same.symm)

theorem EndsBy.signalled (ends : t.EndsBy limit) (late : limit ≤ t.now) : t.signalled = true := by
  rcases ends with signalled | ⟨d, -, future, bound⟩
  · exact signalled
  · exact absurd (Nat.lt_of_lt_of_le future bound) (Nat.not_lt.mpr late)

end Timer

end ArcdpsHealing.Lib
