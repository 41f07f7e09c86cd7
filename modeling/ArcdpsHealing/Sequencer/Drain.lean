import ArcdpsHealing.Sequencer.Sequential
import Mathlib.Algebra.BigOperators.Fin
import Mathlib.Algebra.BigOperators.Group.Finset.Piecewise
import Mathlib.Algebra.Order.Group.Multiset
import Mathlib.Tactic.Abel

namespace ArcdpsHealing.Sequencer

def QueuedEvent.held (e : QueuedEvent) : Multiset Call := if e.id = 0 then 0 else {e.load}

def waiting (s : State) : Multiset Call := ∑ i, (s.queuedEvents i).held

@[simp] theorem waiting_setHighest (s : State) (m : Nat) : waiting (s.setHighest m) = waiting s :=
  rfl

@[simp] theorem waiting_setCount (s : State) (n : Nat) : waiting (s.setCount n) = waiting s := rfl

theorem held_of_empty {e : QueuedEvent} (empty : e.id = 0) : e.held = 0 := if_pos empty

theorem held_of_busy {e : QueuedEvent} (busy : e.id ≠ 0) : e.held = {e.load} := if_neg busy

theorem waiting_of_other {s t : State} {i : Slot}
    (other : ∀ j, j ≠ i → t.queuedEvents j = s.queuedEvents j) :
    waiting t + (s.queuedEvents i).held = waiting s + (t.queuedEvents i).held := by
  have same (j : Slot) (mem : j ∈ Finset.univ.erase i) :
      (t.queuedEvents j).held = (s.queuedEvents j).held := by
    rw [other j (Finset.ne_of_mem_erase mem)]
  unfold waiting
  rw [← Finset.add_sum_erase _ _ (Finset.mem_univ i), Finset.sum_congr rfl same,
    ← Finset.add_sum_erase (a := i) _ _ (Finset.mem_univ i)]
  abel

theorem mem_waiting {s : State} {c : Call} :
    c ∈ waiting s ↔ ∃ i, (s.queuedEvents i).id ≠ 0 ∧ (s.queuedEvents i).load = c := by
  unfold waiting
  rw [Multiset.mem_sum]
  constructor
  · rintro ⟨i, -, mem⟩
    by_cases busy : (s.queuedEvents i).id = 0
    · rw [held_of_empty busy] at mem
      exact absurd mem (Multiset.notMem_zero c)
    · rw [held_of_busy busy, Multiset.mem_singleton] at mem
      exact ⟨i, busy, mem.symm⟩
  · rintro ⟨i, busy, rfl⟩
    refine ⟨i, Finset.mem_univ i, ?_⟩
    rw [held_of_busy busy]
    exact Multiset.mem_singleton_self _

theorem waiting_eq_zero_iff {s : State} : waiting s = 0 ↔ ∀ i, (s.queuedEvents i).id = 0 := by
  rw [Multiset.eq_zero_iff_forall_notMem]
  constructor
  · intro none i
    by_contra busy
    exact none _ (mem_waiting.mpr ⟨i, busy, rfl⟩)
  · intro empty c mem
    obtain ⟨i, busy, -⟩ := mem_waiting.mp mem
    exact busy (empty i)

theorem visit_count (f : Flush) (i : Slot) :
    (visit f i).st.queuedEventCount = f.st.queuedEventCount := by
  rcases visit_cases f i with ⟨-, eq⟩ | ⟨-, -, eq⟩ | ⟨-, eq⟩ <;> simp [eq]

structure Drains (s t : State) (out : List Delivery) : Prop where
  le : s.highestId ≤ t.highestId
  busy : ∀ i, (t.queuedEvents i).id ≠ 0 → (s.queuedEvents i).id ≠ 0
  ids : out.map (·.call.id) = List.range' (s.highestId + 1) (t.highestId - s.highestId)
  account : (out.map (·.call) : Multiset Call) + waiting t = waiting s

theorem mem_ids {h h' k : Nat} {out : List Delivery}
    (ids : out.map (·.call.id) = List.range' (h + 1) (h' - h)) :
    (∃ d ∈ out, d.call.id = k) ↔ h < k ∧ k ≤ h' := by
  rw [← List.mem_map (f := fun d : Delivery => d.call.id), ids, List.mem_range'_1]
  omega

theorem ids_concat {h h' : Nat} {out : List Delivery} {d : Delivery} (le : h ≤ h')
    (ids : out.map (·.call.id) = List.range' (h + 1) (h' - h)) (next : d.call.id = h' + 1) :
    (out ++ [d]).map (·.call.id) = List.range' (h + 1) (h' + 1 - h) := by
  have step : h' + 1 - h = h' - h + 1 := by omega
  have last : h + 1 + (h' - h) = h' + 1 := by omega
  rw [List.map_append, ids, step, List.range'_1_concat, last, ← next]
  rfl

theorem Drains.refl (s : State) : Drains s s [] :=
  ⟨le_rfl, fun _ busy => busy, by simp, by simp⟩

theorem Drains.visit {s : State} {f : Flush} (h : Drains s f.st f.out) (i : Slot) :
    Drains s (visit f i).st (visit f i).out := by
  rcases visit_cases f i with ⟨-, eq⟩ | ⟨-, -, eq⟩ | ⟨next, eq⟩
  · rwa [eq]
  · rwa [eq]
  have le := h.le
  have here : (f.st.queuedEvents i).id ≠ 0 := by omega
  rw [eq]
  refine ⟨le.trans (Nat.le_succ _), fun j busy => ?_, ?_, ?_⟩
  · rw [State.queuedEvents_setHighest, State.queuedEvents_setSlot] at busy
    split at busy
    · exact absurd rfl busy
    · exact h.busy j busy
  · exact ids_concat le h.ids ((QueuedEvent.id_load _).trans next)
  · have moved := waiting_of_other (s := f.st) (t := f.st.setSlot i (f.st.queuedEvents i).clear)
      (i := i) fun j ne => by rw [State.queuedEvents_setSlot, if_neg ne]
    rw [State.queuedEvents_setSlot_self, held_of_busy here,
      held_of_empty (QueuedEvent.id_clear _), add_zero] at moved
    rw [waiting_setHighest, ← h.account, ← moved, List.map_append, ← Multiset.coe_add]
    simp only [List.map_cons, List.map_nil, Multiset.coe_singleton]
    abel

theorem tryFlushEvents_drains (s : State) :
    Drains s (tryFlushEvents s).1 (tryFlushEvents s).2 :=
  tryFlushEvents_induction (Drains.refl s) (fun _ i h => h.visit i)
    fun _ _ _ _ h => ⟨h.le, h.busy, h.ids, h.account⟩

theorem passes_settles {s : State}
    (used : ∀ i, (s.queuedEvents i).id ≠ 0 → i.val < s.queuedEventCount) {f : Flush}
    (loop : passes (min s.queuedEventCount maxQueuedEvents) (maxQueuedEvents + 1)
      ⟨s, [], false, 0⟩ = f) :
    f.st.queuedEventCount = s.queuedEventCount ∧
      (∀ i, (f.st.queuedEvents i).id ≠ f.st.highestId + 1) ∧
      (f.nonZeroEvents = 0 ↔ ∀ i, (f.st.queuedEvents i).id = 0) := by
  -- The loop stops when nobody's turn it is, and has counted who still waits.
  set eventCount := min s.queuedEventCount maxQueuedEvents with hcount
  have drains : Drains s f.st f.out :=
    loop ▸ passes_induction (fun _ i h => Drains.visit h i) _ _ (Drains.refl s)
  have count : f.st.queuedEventCount = s.queuedEventCount :=
    loop ▸ passes_induction (P := fun t _ => t.queuedEventCount = s.queuedEventCount)
      (fun f i h => (visit_count f i).trans h) _ _ rfl
  obtain ⟨g, last, done⟩ := passes_exits eventCount (maxQueuedEvents + 1) ⟨s, [], false, 0⟩
    (Nat.lt_succ_of_le (occupied_le s))
  rw [loop] at last
  obtain ⟨same, skipped, counted⟩ := (pass_inv eventCount g).quiet done
  rw [← last] at same counted
  have seen : ∀ i, (f.st.queuedEvents i).id ≠ 0 →
      i ∈ (List.finRange maxQueuedEvents).take eventCount := by
    intro i busy
    have := used i (drains.busy i busy)
    rw [mem_take_finRange]
    omega
  refine ⟨count, fun i turn => ?_, ?_⟩
  · rw [same] at turn
    exact skipped i (seen i (by rw [same]; omega)) turn
  · rw [counted, ← same]
    refine ⟨fun all i => ?_, fun all i _ => all i⟩
    by_contra busy
    exact busy (all i (seen i busy))

theorem tryFlushEvents_settles {s : State}
    (used : ∀ i, (s.queuedEvents i).id ≠ 0 → i.val < s.queuedEventCount) :
    (∀ i, ((tryFlushEvents s).1.queuedEvents i).id ≠ (tryFlushEvents s).1.highestId + 1) ∧
    (tryFlushEvents s).1.queuedEventCount =
      if ∀ i, ((tryFlushEvents s).1.queuedEvents i).id = 0 then 0 else s.queuedEventCount := by
  -- A flush stops only when nobody's turn it is, and resets the counter if it has emptied the
  -- queue.
  by_cases none : s.queuedEventCount = 0
  · have empty : ∀ i, (s.queuedEvents i).id = 0 := by
      intro i
      by_contra busy
      have := used i busy
      omega
    have flush : tryFlushEvents s = (s, []) := by simp [tryFlushEvents, none]
    rw [flush]
    exact ⟨by simp [empty], by simp [empty, none]⟩
  · obtain ⟨f, loop⟩ : ∃ f, passes (min s.queuedEventCount maxQueuedEvents) (maxQueuedEvents + 1)
        ⟨s, [], false, 0⟩ = f := ⟨_, rfl⟩
    obtain ⟨count, settled, drained⟩ := passes_settles used loop
    have flush : tryFlushEvents s = if f.nonZeroEvents = 0 then
        ({ f.st with queuedEventCount := 0
                     highestQueueSize := max f.st.highestQueueSize f.st.queuedEventCount }, f.out)
        else (f.st, f.out) := by
      simp only [tryFlushEvents, none, if_false, loop]
    rw [flush]
    by_cases zero : f.nonZeroEvents = 0
    · rw [if_pos zero]
      refine ⟨settled, ?_⟩
      rw [if_pos (drained.mp zero)]
    · rw [if_neg zero]
      refine ⟨settled, ?_⟩
      rw [if_neg (mt drained.mpr zero), count]

structure Resting (s : State) : Prop where
  used : ∀ i, (s.queuedEvents i).id ≠ 0 → i.val < s.queuedEventCount
  room : s.queuedEventCount ≤ maxQueuedEvents
  settled : ∀ i, (s.queuedEvents i).id ≠ s.highestId + 1

theorem resting_tryFlushEvents {s : State}
    (used : ∀ i, (s.queuedEvents i).id ≠ 0 → i.val < s.queuedEventCount)
    (room : s.queuedEventCount ≤ maxQueuedEvents) : Resting (tryFlushEvents s).1 := by
  obtain ⟨settled, count⟩ := tryFlushEvents_settles used
  refine ⟨fun i busy => ?_, ?_, settled⟩
  · rw [count, if_neg fun all => busy (all i)]
    exact used i ((tryFlushEvents_drains s).busy i busy)
  · rw [count]
    split
    · exact Nat.zero_le _
    · exact room

end ArcdpsHealing.Sequencer
