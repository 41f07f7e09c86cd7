import ArcdpsHealing.Sequencer.Drain
import Mathlib.Data.List.Nodup

namespace ArcdpsHealing.Sequencer

theorem QueuedEvent.clear_eq_self {e : QueuedEvent} (h : e.id = 0) : e.clear = e := by
  cases e
  subst h
  rfl

structure Tidy (s : State) : Prop where
  above : ∀ i, (s.queuedEvents i).id ≠ 0 → s.highestId < (s.queuedEvents i).id
  inj : ∀ i j, (s.queuedEvents i).id ≠ 0 → (s.queuedEvents i).id = (s.queuedEvents j).id → i = j
  used : ∀ i, (s.queuedEvents i).id ≠ 0 → i.val < s.queuedEventCount

structure Flushed (s : State) (t : State) (out : List Delivery) : Prop where
  le : s.highestId ≤ t.highestId
  gone : ∀ i, (s.queuedEvents i).id ≤ t.highestId → t.queuedEvents i = (s.queuedEvents i).clear
  kept : ∀ i, t.highestId < (s.queuedEvents i).id → t.queuedEvents i = s.queuedEvents i
  ids : out.map (·.call.id) = List.range' (s.highestId + 1) (t.highestId - s.highestId)
  source : ∀ d ∈ out, d.branch = .delayed ∧ ∃ i, d.call = (s.queuedEvents i).load

theorem Tidy.flushed {s : State} (h : Tidy s) : Flushed s s [] where
  le := le_rfl
  gone i le := by
    by_cases empty : (s.queuedEvents i).id = 0
    · exact (QueuedEvent.clear_eq_self empty).symm
    · have := h.above i empty
      omega
  kept _ _ := rfl
  ids := by simp
  source := by simp

theorem Flushed.slot_eq {s t : State} {out : List Delivery} (h : Flushed s t out) {i : Slot}
    (busy : (t.queuedEvents i).id ≠ 0) :
    t.queuedEvents i = s.queuedEvents i ∧ t.highestId < (s.queuedEvents i).id := by
  by_cases le : (s.queuedEvents i).id ≤ t.highestId
  · simp [h.gone i le] at busy
  · exact ⟨h.kept i (by omega), by omega⟩

theorem Flushed.visit {s : State} (tidy : Tidy s) {f : Flush} (h : Flushed s f.st f.out)
    (i : Slot) : Flushed s (visit f i).st (visit f i).out := by
  rcases visit_cases f i with ⟨-, eq⟩ | ⟨-, -, eq⟩ | ⟨next, eq⟩
  · rwa [eq]
  · rwa [eq]
  · obtain ⟨same, -⟩ := h.slot_eq (i := i) (by omega)
    have le := h.le
    rw [eq]
    refine ⟨le.trans (Nat.le_succ _), fun j hj => ?_, fun j hj => ?_, ?_, ?_⟩
    · simp only [State.queuedEvents_setHighest, State.queuedEvents_setSlot]
      by_cases here : j = i
      · rw [if_pos here, here, same]
      · have other : (s.queuedEvents j).id ≠ f.st.highestId + 1 := by
          intro clash
          refine here (tidy.inj j i (by omega) ?_)
          rw [clash, ← next, same]
        rw [if_neg here, h.gone j]
        simp only [State.highestId_setHighest] at hj
        omega
    · simp only [State.highestId_setHighest] at hj
      have here : j ≠ i := by
        rintro rfl
        rw [same] at next
        omega
      simp only [State.queuedEvents_setHighest, State.queuedEvents_setSlot]
      rw [if_neg here, h.kept j (by omega)]
    · exact ids_concat le h.ids ((QueuedEvent.id_load _).trans next)
    · intro d hd
      rcases List.mem_append.mp hd with hd | hd
      · exact h.source d hd
      · rw [List.mem_singleton.mp hd]
        exact ⟨rfl, i, by rw [same]⟩

theorem Flushed.waited {s t : State} {out : List Delivery} (h : Flushed s t out) {d : Delivery}
    (mem : d ∈ out) : ∃ i, (s.queuedEvents i).id ≠ 0 ∧ (s.queuedEvents i).load = d.call := by
  obtain ⟨-, i, load⟩ := h.source d mem
  obtain ⟨later, -⟩ := (mem_ids h.ids).mp ⟨d, mem, rfl⟩
  refine ⟨i, ?_, load.symm⟩
  rw [load, QueuedEvent.id_load] at later
  omega

theorem Flushed.tidy {s t : State} {out : List Delivery} (h : Flushed s t out) (tidy : Tidy s)
    (used : ∀ i, (t.queuedEvents i).id ≠ 0 → i.val < t.queuedEventCount) : Tidy t where
  above i busy := by
    rw [(h.slot_eq busy).1]
    exact (h.slot_eq busy).2
  inj i j busy same := by
    have busy' : (t.queuedEvents j).id ≠ 0 := same ▸ busy
    rw [(h.slot_eq busy).1, (h.slot_eq busy').1] at same
    exact tidy.inj i j ((h.slot_eq busy).1 ▸ busy) same
  used := used

theorem tryFlushEvents_spec {s : State} (tidy : Tidy s) :
    Flushed s (tryFlushEvents s).1 (tryFlushEvents s).2 ∧
    (∀ i, ((tryFlushEvents s).1.queuedEvents i).id ≠ (tryFlushEvents s).1.highestId + 1) ∧
    (tryFlushEvents s).1.queuedEventCount =
      if ∀ i, ((tryFlushEvents s).1.queuedEvents i).id = 0 then 0 else s.queuedEventCount := by
  refine ⟨?_, tryFlushEvents_settles tidy.used⟩
  exact tryFlushEvents_induction tidy.flushed (fun _ i h => Flushed.visit tidy h i)
    fun _ _ _ _ h => ⟨h.le, h.gone, h.kept, h.ids, h.source⟩

end ArcdpsHealing.Sequencer
