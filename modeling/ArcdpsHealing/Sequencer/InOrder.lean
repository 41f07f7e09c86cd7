import ArcdpsHealing.Sequencer.Invariant

namespace ArcdpsHealing.Sequencer

variable (spurious : Call → Nat) (memory : Slot → QueuedEvent)

theorem run_zero (calls : List Call) (zero : ∀ c ∈ calls, c.id = 0) :
    run spurious memory calls = ⟨.initial memory, calls.map fun c => [⟨c, .idZero⟩]⟩ := by
  induction calls using List.reverseRecOn with
  | nil => rfl
  | append_singleton calls c ih =>
    rw [run_append, ih fun d hd => zero d (by simp [hd])]
    simp [submit, processEvent, zero c (by simp)]

def DistinctIds (calls : List Call) : Prop := ((calls.map Call.id).filter (· ≠ 0)).Nodup

instance (calls : List Call) : Decidable (DistinctIds calls) :=
  inferInstanceAs (Decidable (List.Nodup _))

theorem DistinctIds.init {calls : List Call} {c : Call} (h : DistinctIds (calls ++ [c])) :
    DistinctIds calls := by
  simp only [DistinctIds, List.map_append, List.filter_append] at h
  exact h.of_append_left

theorem DistinctIds.last {calls : List Call} {c : Call} (h : DistinctIds (calls ++ [c]))
    (pos : c.id ≠ 0) : ∀ d ∈ calls, d.id ≠ c.id := by
  intro d hd same
  simp only [DistinctIds, List.map_append, List.filter_append, List.nodup_append] at h
  refine h.2.2 d.id ?_ c.id (by simp [pos]) same
  exact List.mem_filter.mpr ⟨List.mem_map_of_mem hd, by simpa [same] using pos⟩

def NoOverflow (calls : List Call) : Prop :=
  ∀ pre c post, calls = pre ++ c :: post →
    (run spurious memory pre).st.highestId + 1 < c.id →
      (run spurious memory pre).st.queuedEventCount < maxQueuedEvents

theorem NoOverflow.init {calls : List Call} {c : Call}
    (h : NoOverflow spurious memory (calls ++ [c])) : NoOverflow spurious memory calls := by
  rintro pre d post rfl
  exact h pre d (post ++ [c]) (by simp)

theorem run_ordered {calls : List Call} {first : Call}
    (bounded : ∀ c ∈ calls, c.id < unregistered) (distinct : DistinctIds calls)
    (room : NoOverflow spurious memory calls)
    (hfirst : calls.find? (fun c => c.id ≠ 0) = some first) :
    Ordered first.id calls (run spurious memory calls) := by
  induction calls using List.reverseRecOn with
  | nil => simp at hfirst
  | append_singleton calls c ih =>
    rw [List.find?_append] at hfirst
    rw [run_append]
    cases before : calls.find? (fun c => c.id ≠ 0) with
    | some d =>
      obtain rfl : d = first := by rw [before] at hfirst; exact Option.some.inj hfirst
      have ordered := ih (fun c hc => bounded c (by simp [hc])) distinct.init room.init before
      exact ordered.submit spurious bounded distinct.last (room calls c [] rfl)
    | none =>
      have zero : ∀ d ∈ calls, d.id = 0 := by simpa using before
      rw [before, Option.none_or] at hfirst
      obtain rfl : first = c := List.mem_singleton.mp (List.mem_of_find?_eq_some hfirst)
      have pos : first.id ≠ 0 := by simpa using List.find?_some hfirst
      have start := run_zero spurious memory calls zero
      have through : ∀ d ∈ (run spurious memory calls).delivered,
          d.call ∈ calls ∧ d.branch = .idZero := by
        rw [start]
        intro d hd
        obtain ⟨_, hout, hd⟩ := List.mem_flatten.mp hd
        obtain ⟨e, he, rfl⟩ := List.mem_map.mp hout
        rw [List.mem_singleton.mp hd]
        exact ⟨he, rfl⟩
      refine Ordered.first spurious ?_ ?_ ?_ zero ?_ (fun d hd => (through d hd).1) ?_ pos
        (bounded first (by simp))
      · rw [start]; rfl
      · rw [start]; exact fun i => rfl
      · rw [start]; rfl
      · rw [start, List.forall₂_map_right_iff, List.forall₂_same]
        exact fun d _ => ⟨_, rfl⟩
      · intro d hd
        rw [(through d hd).2]
        decide

theorem noOverflow_of_ne {calls : List Call} (bounded : ∀ c ∈ calls, c.id < unregistered)
    (distinct : DistinctIds calls)
    (room : ∀ k < calls.length,
      (run spurious memory (calls.take k)).st.queuedEventCount ≠ maxQueuedEvents) :
    NoOverflow spurious memory calls := by
  -- The counter never exceeds the number of slots, so a call that does not find it there finds
  -- it below.
  induction calls using List.reverseRecOn with
  | nil =>
    intro pre d post h
    simp at h
  | append_singleton calls c ih =>
    have front : NoOverflow spurious memory calls := by
      refine ih (fun d hd => bounded d (by simp [hd])) distinct.init fun k hk => ?_
      have := room k (by simp; omega)
      rwa [List.take_append_of_le_length hk.le] at this
    intro pre d post h early
    rcases post.eq_nil_or_concat with rfl | ⟨post, e, rfl⟩
    · obtain ⟨rfl, -⟩ := List.append_inj' h rfl
      have ne := room calls.length (by simp)
      rw [List.take_left] at ne
      cases before : calls.find? (fun c => c.id ≠ 0) with
      | none =>
        rw [run_zero spurious memory calls (by simpa using before)]
        exact (by decide : 0 < maxQueuedEvents)
      | some first =>
        have ordered := run_ordered spurious memory (fun d hd => bounded d (by simp [hd]))
          distinct.init front before
        exact lt_of_le_of_ne ordered.room ne
    · rw [List.concat_eq_append, ← List.cons_append, ← List.append_assoc] at h
      exact front pre d post (List.append_inj' h rfl).1 early

theorem DistinctIds.eq_of_id {calls : List Call} (h : DistinctIds calls) {c d : Call}
    (hc : c ∈ calls) (hd : d ∈ calls) (pos : c.id ≠ 0) (same : c.id = d.id) : c = d := by
  induction calls using List.reverseRecOn with
  | nil => simp at hc
  | append_singleton calls e ih =>
    rw [List.mem_append, List.mem_singleton] at hc hd
    rcases hc with hc | rfl <;> rcases hd with hd | rfl
    · exact ih h.init hc hd
    · exact absurd same (h.last (by omega) c hc)
    · exact absurd same.symm (h.last pos d hd)
    · rfl

theorem Ordered.id_le {f : Nat} {calls : List Call} {l : Log} (h : Ordered f calls l)
    {d : Delivery} (hd : d ∈ l.delivered) : d.call.id ≤ l.st.highestId := by
  by_cases ge : f ≤ d.call.id
  · have mem : d.call.id ∈ (l.delivered.map (·.call.id)).filter (f ≤ ·) :=
      List.mem_filter.mpr ⟨List.mem_map_of_mem (f := fun d => d.call.id) hd, by simpa using ge⟩
    rw [h.ids, List.mem_range'_1] at mem
    have := h.ge
    omega
  · have := h.ge
    omega

theorem Ordered.delivered_of_le {f : Nat} {calls : List Call} {l : Log} (h : Ordered f calls l)
    (distinct : DistinctIds calls) {c : Call} (hc : c ∈ calls) (le : c.id ≤ l.st.highestId) :
    c ∈ l.delivered.map (·.call) := by
  by_cases ge : f ≤ c.id
  · have mem : c.id ∈ (l.delivered.map (·.call.id)).filter (f ≤ ·) := by
      rw [h.ids, List.mem_range'_1]
      omega
    obtain ⟨d, hd, same⟩ := List.mem_map.mp (List.mem_filter.mp mem).1
    have pos := h.pos
    exact List.mem_map.mpr ⟨d, hd, (distinct.eq_of_id hc (h.source d hd) (by omega) same.symm).symm⟩
  · obtain ⟨k, hk, rfl⟩ := List.getElem_of_mem hc
    obtain ⟨length, own⟩ := List.forall₂_iff_get.mp h.own
    obtain ⟨b, out⟩ := own k hk (by omega) (by simpa using ge)
    refine List.mem_map.mpr ⟨⟨calls[k], b⟩, ?_, rfl⟩
    have lt : k < l.outs.length := by omega
    refine List.mem_flatten.mpr ⟨l.outs[k], List.getElem_mem _, ?_⟩
    simp only [List.get_eq_getElem] at out
    simp [out]

/-- Sequential order and no loss, after any number of calls. -/
theorem sequential_delivery (calls : List Call) (first : Call)
    (distinct : DistinctIds calls) (bounded : ∀ c ∈ calls, c.id < unregistered)
    (room : ∀ k < calls.length,
      (run spurious memory (calls.take k)).st.queuedEventCount ≠ maxQueuedEvents)
    (hfirst : calls.find? (fun c => c.id ≠ 0) = some first) :
    let l := run spurious memory calls
    (l.delivered.map (·.call.id)).filter (first.id ≤ ·) =
        List.range' first.id (l.st.highestId + 1 - first.id) ∧
      List.Forall₂ (fun c out => c.id = 0 ∨ c.id < first.id → ∃ b, out = [⟨c, b⟩]) calls l.outs ∧
      (∀ i, (l.st.queuedEvents i).id ≠ 0 →
        (l.st.queuedEvents i).load ∈ calls ∧
        (l.st.queuedEvents i).load ∉ l.delivered.map (·.call) ∧
        l.st.highestId + 1 < (l.st.queuedEvents i).id) ∧
      (∀ c ∈ calls, c ∉ l.delivered.map (·.call) → ∃! i, (l.st.queuedEvents i).load = c) ∧
      (∀ d ∈ l.delivered, d.call ∈ calls) ∧
      (l.st.queuedEventCount = 0 ↔ ∀ i, (l.st.queuedEvents i).id = 0) := by
  intro l
  have ordered : Ordered first.id calls l := run_ordered spurious memory bounded distinct
    (noOverflow_of_ne spurious memory bounded distinct room) hfirst
  refine ⟨ordered.ids, ?_, fun i busy => ⟨ordered.waiting i busy, ?_, ?_⟩, fun c hc missing => ?_,
    ordered.source, ordered.drained⟩
  · refine ordered.own.imp ?_
    intro c out own small
    refine own ?_
    have := ordered.pos
    omega
  · intro mem
    obtain ⟨d, hd, same⟩ := List.mem_map.mp mem
    have le := ordered.id_le hd
    have above := ordered.tidy.above i busy
    rw [same, QueuedEvent.id_load] at le
    omega
  · have above := ordered.tidy.above i busy
    have settled := ordered.settled i
    omega
  · have later : l.st.highestId < c.id := by
      by_contra le
      exact missing (ordered.delivered_of_le distinct hc (by omega))
    obtain ⟨i, load⟩ := ordered.queued c hc later
    refine ⟨i, load, fun j hj => ?_⟩
    have same : (l.st.queuedEvents j).id = (l.st.queuedEvents i).id := by
      rw [← QueuedEvent.id_load, ← QueuedEvent.id_load, hj, load]
    have busy : (l.st.queuedEvents j).id ≠ 0 := by
      rw [← QueuedEvent.id_load, hj]
      omega
    exact ordered.tidy.inj j i busy same

theorem sequential_delivery_six :
    let l := run (fun _ => 1) (fun _ => .zeroed) ([5, 8, 6, 0, 3, 7].map .bare)
    (l.delivered.map (·.call.id)).filter (5 ≤ ·) = List.range' 5 (l.st.highestId + 1 - 5) := by
  have h := sequential_delivery (fun _ => 1) (fun _ => .zeroed) ([5, 8, 6, 0, 3, 7].map .bare)
    (.bare 5) (by decide) (by decide) (by decide +kernel) (by decide)
  exact h.1

end ArcdpsHealing.Sequencer
