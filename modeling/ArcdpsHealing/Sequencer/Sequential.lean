import ArcdpsHealing.Sequencer.State
import Mathlib.Data.Fintype.Card
import Mathlib.Data.List.FinRange

namespace ArcdpsHealing.Sequencer

/-- The place in the source that invoked the callback. -/
inductive Branch
  | idZero | twice | lower | fastPath | overflow | delayed
  deriving DecidableEq, Repr

structure Delivery where
  call : Call
  branch : Branch
  deriving DecidableEq, Repr

structure Flush where
  st : State
  out : List Delivery
  removed : Bool
  nonZeroEvents : Nat

def visit (f : Flush) (i : Slot) : Flush :=
  let slot := f.st.queuedEvents i
  if slot.id = 0 then f
  else if f.st.highestId ≠ slot.id - 1 then { f with nonZeroEvents := f.nonZeroEvents + 1 }
  else
    { f with st := (f.st.setSlot i slot.clear).setHighest slot.id
             out := f.out ++ [⟨slot.load, .delayed⟩]
             removed := true }

def pass (eventCount : Nat) (f : Flush) : Flush :=
  ((List.finRange maxQueuedEvents).take eventCount).foldl visit
    { f with removed := false, nonZeroEvents := 0 }

/-- The `do … while (removed)` loop; `passes_exits` shows that the fuel given
below is never used up. -/
def passes (eventCount : Nat) : Nat → Flush → Flush
  | 0, f => f
  | fuel + 1, f =>
    let f := pass eventCount f
    if f.removed then passes eventCount fuel f else f

def tryFlushEvents (s : State) : State × List Delivery :=
  if s.queuedEventCount = 0 then (s, [])
  else
    let eventCount := min s.queuedEventCount maxQueuedEvents
    let f := passes eventCount (maxQueuedEvents + 1) ⟨s, [], false, 0⟩
    if f.nonZeroEvents = 0 then
      ({ f.st with queuedEventCount := 0
                   highestQueueSize := max f.st.highestQueueSize f.st.queuedEventCount }, f.out)
    else (f.st, f.out)

/-- The branches of the `while (true)` loop that end the call. -/
def dispatch (s : State) (c : Call) (current : Nat) : State × List Delivery :=
  if current = c.id then (s, [⟨c, .twice⟩])
  else if current > c.id - 1 then (s, [⟨c, .lower⟩])
  else if current = c.id - 1 then
    let flushed := tryFlushEvents (s.setHighest c.id)
    (flushed.1, ⟨c, .fastPath⟩ :: flushed.2)
  else
    let index := s.queuedEventCount
    let s := s.setCount (fetchAdd s.queuedEventCount)
    if h : index < maxQueuedEvents then
      (s.setSlot ⟨index, h⟩ ((s.queuedEvents ⟨index, h⟩).store c), [])
    else (s, [⟨c, .overflow⟩])

/-- The loop, where `compare_exchange_weak` still fails `spurious` times
without a reason. A failure re-reads `mHighestId` and tries again. -/
def loop (c : Call) : Nat → State → Nat → State × List Delivery
  | 0, s, current =>
    if current ≠ c.id ∧ current = unregistered then
      -- registered; the next round cannot take this branch again
      dispatch (s.setHighest (c.id - 1)) c (c.id - 1)
    else dispatch s c current
  | spurious + 1, s, current =>
    if current ≠ c.id ∧ current = unregistered then loop c spurious s s.highestId
    else dispatch s c current

def processEvent (spurious : Nat) (s : State) (c : Call) : State × List Delivery :=
  if c.id = 0 then (s, [⟨c, .idZero⟩]) else loop c spurious s s.highestId

structure Log where
  st : State
  outs : List (List Delivery)

def Log.delivered (l : Log) : List Delivery := l.outs.flatten

def submit (spurious : Call → Nat) (l : Log) (c : Call) : Log :=
  let r := processEvent (spurious c) l.st c
  ⟨r.1, l.outs ++ [r.2]⟩

def run (spurious : Call → Nat) (memory : Slot → QueuedEvent) (calls : List Call) : Log :=
  calls.foldl (submit spurious) ⟨.initial memory, []⟩

theorem run_append (spurious : Call → Nat) (memory : Slot → QueuedEvent) (calls : List Call)
    (c : Call) :
    run spurious memory (calls ++ [c]) = submit spurious (run spurious memory calls) c := by
  simp [run]

def occupied (s : State) : Nat := (Finset.univ.filter fun i => (s.queuedEvents i).id ≠ 0).card

theorem occupied_le (s : State) : occupied s ≤ maxQueuedEvents := by
  simpa [occupied] using Finset.card_filter_le Finset.univ fun i => (s.queuedEvents i).id ≠ 0

theorem visit_cases (f : Flush) (i : Slot) :
    ((f.st.queuedEvents i).id = 0 ∧ visit f i = f) ∨
    ((f.st.queuedEvents i).id ≠ 0 ∧ (f.st.queuedEvents i).id ≠ f.st.highestId + 1 ∧
      visit f i = { f with nonZeroEvents := f.nonZeroEvents + 1 }) ∨
    ((f.st.queuedEvents i).id = f.st.highestId + 1 ∧
      visit f i =
        { f with st := (f.st.setSlot i (f.st.queuedEvents i).clear).setHighest
                          (f.st.highestId + 1)
                 out := f.out ++ [⟨(f.st.queuedEvents i).load, .delayed⟩]
                 removed := true }) := by
  by_cases empty : (f.st.queuedEvents i).id = 0
  · exact .inl ⟨empty, by simp [visit, empty]⟩
  by_cases next : (f.st.queuedEvents i).id = f.st.highestId + 1
  · exact .inr (.inr ⟨next, by simp [visit, next]⟩)
  · have skip : f.st.highestId ≠ (f.st.queuedEvents i).id - 1 := by omega
    exact .inr (.inl ⟨empty, next, by simp [visit, empty, skip]⟩)

theorem occupied_clear_lt (s : State) (i : Slot) (h : (s.queuedEvents i).id ≠ 0) (m : Nat) :
    occupied ((s.setSlot i (s.queuedEvents i).clear).setHighest m) < occupied s := by
  unfold occupied
  apply Finset.card_lt_card
  rw [Finset.ssubset_iff_of_subset]
  · refine ⟨i, by simpa using h, fun mem => ?_⟩
    have := (Finset.mem_filter.mp mem).2
    simp at this
  · intro j
    simp only [Finset.mem_filter, Finset.mem_univ, true_and, State.queuedEvents_setHighest,
      State.queuedEvents_setSlot]
    split
    · simp
    · exact id

structure PassInv (start : State) (visited : List Slot) (f : Flush) : Prop where
  occupied_le : occupied f.st ≤ occupied start
  removed_lt : f.removed = true → occupied f.st < occupied start
  quiet : f.removed = false → f.st = start ∧
    (∀ i ∈ visited, (start.queuedEvents i).id ≠ start.highestId + 1) ∧
    (f.nonZeroEvents = 0 ↔ ∀ i ∈ visited, (start.queuedEvents i).id = 0)

theorem PassInv.visit {start : State} {visited : List Slot} {f : Flush}
    (h : PassInv start visited f) (i : Slot) : PassInv start (visited ++ [i]) (visit f i) := by
  rcases visit_cases f i with ⟨empty, eq⟩ | ⟨busy, skip, eq⟩ | ⟨next, eq⟩
  · rw [eq]
    refine ⟨h.occupied_le, h.removed_lt, fun quiet => ?_⟩
    obtain ⟨same, skipped, count⟩ := h.quiet quiet
    rw [same] at empty
    refine ⟨same, ?_, ?_⟩
    · intro j hj
      rcases List.mem_append.mp hj with hj | hj
      · exact skipped j hj
      · rw [List.mem_singleton.mp hj]; omega
    · simp [count, empty, or_imp, forall_and]
  · rw [eq]
    refine ⟨h.occupied_le, h.removed_lt, fun quiet => ?_⟩
    obtain ⟨same, skipped, -⟩ := h.quiet quiet
    rw [same] at busy skip
    refine ⟨same, ?_, ?_⟩
    · intro j hj
      rcases List.mem_append.mp hj with hj | hj
      · exact skipped j hj
      · rwa [List.mem_singleton.mp hj]
    · simp [busy, or_imp, forall_and]
  · rw [eq]
    have fewer := occupied_clear_lt f.st i (by omega) (f.st.highestId + 1)
    have := h.occupied_le
    exact ⟨fewer.le.trans this, fun _ => fewer.trans_le this, by simp⟩

theorem PassInv.foldl {start : State} {visited : List Slot} {f : Flush}
    (h : PassInv start visited f) (todo : List Slot) :
    PassInv start (visited ++ todo) (todo.foldl Sequencer.visit f) := by
  induction todo generalizing visited f with
  | nil => simpa using h
  | cons i todo ih => simpa using ih (h.visit i)

theorem pass_inv (eventCount : Nat) (f : Flush) :
    PassInv f.st ((List.finRange maxQueuedEvents).take eventCount) (pass eventCount f) := by
  have start : PassInv f.st [] { f with removed := false, nonZeroEvents := 0 } :=
    ⟨le_rfl, by simp, by simp⟩
  simpa [pass] using start.foldl ((List.finRange maxQueuedEvents).take eventCount)

theorem passes_exits (eventCount fuel : Nat) (f : Flush) (h : occupied f.st < fuel) :
    ∃ g, passes eventCount fuel f = pass eventCount g ∧ (pass eventCount g).removed = false := by
  induction fuel generalizing f with
  | zero => omega
  | succ fuel ih =>
    simp only [passes]
    cases again : (pass eventCount f).removed with
    | false => exact ⟨f, by simp, again⟩
    | true =>
      have := (pass_inv eventCount f).removed_lt again
      simpa using ih (pass eventCount f) (by omega)

theorem passes_induction {P : State → List Delivery → Prop}
    (step : ∀ (f : Flush) i, P f.st f.out → P (visit f i).st (visit f i).out)
    (eventCount fuel : Nat) {f : Flush} (h : P f.st f.out) :
    P (passes eventCount fuel f).st (passes eventCount fuel f).out := by
  have foldl (todo : List Slot) : ∀ g : Flush, P g.st g.out →
      P (todo.foldl visit g).st (todo.foldl visit g).out := by
    induction todo with
    | nil => exact fun g hg => hg
    | cons i todo ih => exact fun g hg => ih _ (step g i hg)
  induction fuel generalizing f with
  | zero => exact h
  | succ fuel ih =>
    have next : P (pass eventCount f).st (pass eventCount f).out := foldl _ _ h
    simp only [passes]
    split
    · exact ih next
    · exact next

theorem tryFlushEvents_induction {P : State → List Delivery → Prop} {s : State} (start : P s [])
    (step : ∀ (f : Flush) i, P f.st f.out → P (visit f i).st (visit f i).out)
    (reset : ∀ (t : State) out n q, P t out →
      P { t with queuedEventCount := n, highestQueueSize := q } out) :
    P (tryFlushEvents s).1 (tryFlushEvents s).2 := by
  unfold tryFlushEvents
  split
  case isTrue => exact start
  have done := passes_induction step (min s.queuedEventCount maxQueuedEvents)
    (maxQueuedEvents + 1) (f := ⟨s, [], false, 0⟩) start
  dsimp only
  split
  case isTrue => exact reset _ _ _ _ done
  case isFalse => exact done

theorem mem_take_finRange {n k : Nat} (i : Fin n) :
    i ∈ (List.finRange n).take k ↔ i.val < k := by
  rw [List.mem_take_iff_getElem]
  constructor
  · rintro ⟨j, hj, rfl⟩
    simp at hj ⊢
    omega
  · intro hi
    exact ⟨i.val, by simp; omega, by simp⟩

end ArcdpsHealing.Sequencer
