import ArcdpsHealing.Sequencer.InOrder

/-! How much the queue holds: slots are handed out by a counter that only goes
back to 0 when the whole queue drains. -/

namespace ArcdpsHealing.Sequencer

/-! ### The arrival order alone -/

def Early (ids : List Nat) (k : Nat) : Prop :=
  ∃ j < ids.length, k < j ∧ ids.getD j 0 < ids.getD k 0

def GapFree (ids : List Nat) (k : Nat) : Prop :=
  ∀ i < k, ∀ j < ids.length, k ≤ j → ids.getD i 0 < ids.getD j 0

instance (ids : List Nat) (k : Nat) : Decidable (Early ids k) :=
  inferInstanceAs (Decidable (∃ j < ids.length, k < j ∧ ids.getD j 0 < ids.getD k 0))

instance (ids : List Nat) (k : Nat) : Decidable (GapFree ids k) :=
  inferInstanceAs (Decidable (∀ i < k, ∀ j < ids.length, k ≤ j → ids.getD i 0 < ids.getD j 0))

def slotsUsed (ids : List Nat) : Nat → Nat
  | 0 => 0
  | k + 1 => if GapFree ids (k + 1) then 0 else slotsUsed ids k + if Early ids k then 1 else 0

theorem slotsUsed_reset {ids : List Nat} {k : Nat} (h : GapFree ids (k + 1)) :
    slotsUsed ids (k + 1) = 0 :=
  if_pos h

theorem slotsUsed_early {ids : List Nat} {k : Nat} (h : ¬ GapFree ids (k + 1))
    (early : Early ids k) : slotsUsed ids (k + 1) = slotsUsed ids k + 1 := by
  rw [slotsUsed, if_neg h, if_pos early]

theorem slotsUsed_late {ids : List Nat} {k : Nat} (h : ¬ GapFree ids (k + 1))
    (late : ¬ Early ids k) : slotsUsed ids (k + 1) = slotsUsed ids k := by
  rw [slotsUsed, if_neg h, if_neg late, Nat.add_zero]

theorem slotsUsed_le (ids : List Nat) (k : Nat) : slotsUsed ids k ≤ k := by
  induction k with
  | zero => exact le_rfl
  | succ k ih =>
    rw [slotsUsed]
    split
    · exact Nat.zero_le _
    · refine Nat.add_le_add ih ?_
      split
      · exact le_rfl
      · exact Nat.zero_le _

/-- Every early arrival finds fewer than `maxQueuedEvents` slots used. -/
def FitsQueue (ids : List Nat) : Prop :=
  ∀ k < ids.length, Early ids k → slotsUsed ids k < maxQueuedEvents

instance (ids : List Nat) : Decidable (FitsQueue ids) :=
  inferInstanceAs (Decidable (∀ k < ids.length, Early ids k → slotsUsed ids k < maxQueuedEvents))

section Position

variable {pre post : List Nat} {x : Nat}

theorem getD_before {i : Nat} (hi : i < pre.length) : (pre ++ post).getD i 0 = pre[i] := by
  rw [List.getD_eq_getElem?_getD, List.getElem?_append_left hi, List.getElem?_eq_getElem hi]
  rfl

theorem getD_after {j : Nat} (hj : pre.length ≤ j) (lt : j < (pre ++ post).length) :
    (pre ++ post).getD j 0 ∈ post := by
  rw [List.length_append] at lt
  rw [List.getD_eq_getElem?_getD, List.getElem?_append_right hj,
    List.getElem?_eq_getElem (by omega)]
  exact List.getElem_mem _

theorem gapFree_iff : GapFree (pre ++ post) pre.length ↔ ∀ x ∈ pre, ∀ y ∈ post, x < y := by
  constructor
  · intro h x hx y hy
    obtain ⟨i, hi, rfl⟩ := List.getElem_of_mem hx
    obtain ⟨j, hj, rfl⟩ := List.getElem_of_mem hy
    have := h i hi (pre.length + j) (by simp; omega) (by omega)
    rw [getD_before hi, List.getD_eq_getElem?_getD, List.getElem?_append_right (by omega)] at this
    simpa [hj] using this
  · intro h i hi j hj le
    rw [getD_before hi]
    exact h _ (List.getElem_mem _) _ (getD_after le hj)

theorem early_iff : Early (pre ++ x :: post) pre.length ↔ ∃ y ∈ post, y < x := by
  have here : (pre ++ x :: post).getD pre.length 0 = x := by
    rw [List.getD_eq_getElem?_getD, List.getElem?_append_right le_rfl]
    simp
  have split : pre ++ x :: post = (pre ++ [x]) ++ post := by simp
  constructor
  · rintro ⟨j, lt, after, small⟩
    rw [here] at small
    refine ⟨_, ?_, small⟩
    rw [split] at lt ⊢
    exact getD_after (by rw [List.length_append, List.length_singleton]; omega) lt
  · rintro ⟨y, hy, small⟩
    obtain ⟨j, hj, rfl⟩ := List.getElem_of_mem hy
    refine ⟨pre.length + 1 + j, by rw [split]; simp; omega, by omega, ?_⟩
    rw [here, List.getD_eq_getElem?_getD, split, List.getElem?_append_right (by simp)]
    simpa [hj, Nat.add_sub_cancel_left] using small

end Position

/-- The ids `f`, …, `f + n` arrive, `f` first. -/
structure Arrivals (f n : Nat) (calls : List Call) : Prop where
  pos : 0 < f
  bounded : f + n < unregistered
  perm : (calls.map Call.id).Perm (List.range' f (n + 1))
  first : (calls.map Call.id).head? = some f

namespace Arrivals

variable {f n : Nat} {calls pre post : List Call} (h : Arrivals f n calls)
include h

theorem nodup : (calls.map Call.id).Nodup := h.perm.nodup_iff.mpr List.nodup_range'

theorem distinct : DistinctIds calls := h.nodup.filter _

theorem mem {x : Nat} : x ∈ calls.map Call.id ↔ f ≤ x ∧ x ≤ f + n := by
  rw [h.perm.mem_iff, List.mem_range'_1]
  omega

theorem id_mem {c : Call} (hc : c ∈ calls) : f ≤ c.id ∧ c.id ≤ f + n :=
  h.mem.mp (List.mem_map_of_mem hc)

theorem lt {c : Call} (hc : c ∈ calls) : c.id < unregistered := by
  have := (h.id_mem hc).2
  have := h.bounded
  omega

theorem disjoint (split : calls = pre ++ post) :
    ∀ c ∈ pre, ∀ d ∈ post, c.id ≠ d.id := by
  have nodup := h.nodup
  rw [split, List.map_append, List.nodup_append] at nodup
  exact fun c hc d hd => nodup.2.2 _ (List.mem_map_of_mem hc) _ (List.mem_map_of_mem hd)

theorem post_above {l : Log} (split : calls = pre ++ post) (ordered : Ordered f pre l)
    {d : Call} (hd : d ∈ post) : l.st.highestId < d.id := by
  by_contra le
  have ge := (h.id_mem (c := d) (by rw [split]; simp [hd])).1
  have mem : d.id ∈ (l.delivered.map (·.call.id)).filter (f ≤ ·) := by
    rw [ordered.ids, List.mem_range'_1]
    omega
  obtain ⟨e, he, same⟩ := List.mem_map.mp (List.mem_filter.mp mem).1
  exact h.disjoint split _ (ordered.source e he) d hd same

theorem next_arrives {l : Log} (split : calls = pre ++ post) (ordered : Ordered f pre l)
    (lt : l.st.highestId + 1 ≤ f + n) : ∃ d ∈ post, d.id = l.st.highestId + 1 := by
  have ge := ordered.ge
  have missing : l.st.highestId + 1 ∉ pre.map Call.id := by
    intro mem
    obtain ⟨d, hd, id⟩ := List.mem_map.mp mem
    obtain ⟨i, load⟩ := ordered.queued d hd (by omega)
    refine ordered.settled i ?_
    rw [← QueuedEvent.id_load, load, id]
  have arrives : l.st.highestId + 1 ∈ calls.map Call.id := h.mem.mpr (by omega)
  rw [split, List.map_append, List.mem_append] at arrives
  simpa using arrives.resolve_left missing

theorem gap {l : Log} (split : calls = pre ++ post) (ordered : Ordered f pre l) {c : Call}
    (hc : c ∈ pre) : l.st.highestId < c.id ↔ ∃ d ∈ post, d.id < c.id := by
  constructor
  · intro later
    have := (h.id_mem (c := c) (by rw [split]; simp [hc])).2
    obtain ⟨d, hd, next⟩ := h.next_arrives split ordered (by omega)
    have := h.disjoint split c hc d hd
    exact ⟨d, hd, by omega⟩
  · rintro ⟨d, hd, small⟩
    exact (h.post_above split ordered hd).trans small

theorem empty_iff {l : Log} (split : calls = pre ++ post) (ordered : Ordered f pre l) :
    (∀ i, (l.st.queuedEvents i).id = 0) ↔ GapFree (calls.map Call.id) pre.length := by
  have length : (pre.map Call.id).length = pre.length := List.length_map _
  rw [split, List.map_append, ← length, gapFree_iff]
  simp only [List.forall_mem_map]
  constructor
  · intro empty c hc d hd
    by_contra le
    have ne := h.disjoint split c hc d hd
    have later := (h.gap split ordered hc).mpr ⟨d, hd, by omega⟩
    obtain ⟨i, load⟩ := ordered.queued c hc later
    have := empty i
    rw [← QueuedEvent.id_load, load] at this
    omega
  · intro free i
    by_contra busy
    have later := ordered.tidy.above i busy
    rw [← QueuedEvent.id_load] at later
    obtain ⟨d, hd, small⟩ := (h.gap split ordered (ordered.waiting i busy)).mp later
    exact absurd (free _ (ordered.waiting i busy) d hd) (by omega)

theorem early_iff_queued {l : Log} {c : Call} (split : calls = pre ++ c :: post)
    (ordered : Ordered f pre l) :
    Early (calls.map Call.id) pre.length ↔ l.st.highestId + 1 < c.id := by
  have here := (h.id_mem (c := c) (by rw [split]; simp)).2
  have split' : calls = (pre ++ [c]) ++ post := by simp [split]
  have length : (pre.map Call.id).length = pre.length := List.length_map _
  rw [split, List.map_append, List.map_cons, ← length, early_iff]
  constructor
  · rintro ⟨y, hy, small⟩
    obtain ⟨d, hd, rfl⟩ := List.mem_map.mp hy
    have := h.post_above split ordered (List.mem_cons_of_mem c hd)
    omega
  · intro early
    obtain ⟨d, hd, next⟩ := h.next_arrives split ordered (by omega)
    rcases List.mem_cons.mp hd with rfl | hd
    · omega
    · exact ⟨d.id, List.mem_map_of_mem hd, by omega⟩

end Arrivals

theorem Ordered.count_submit {f : Nat} {calls : List Call} {l : Log} {c : Call}
    (h : Ordered f calls l) (spurious : Call → Nat) (later : l.st.highestId < c.id)
    (room : l.st.highestId + 1 < c.id → l.st.queuedEventCount < maxQueuedEvents) :
    (Sequencer.submit spurious l c).st.queuedEventCount =
      if ∀ i, ((Sequencer.submit spurious l c).st.queuedEvents i).id = 0 then 0
      else l.st.queuedEventCount + if l.st.highestId + 1 < c.id then 1 else 0 := by
  rw [st_submit, processEvent_registered _ h.registered (by omega)]
  by_cases early : l.st.highestId + 1 < c.id
  · rw [dispatch_queue early (room early), if_neg, if_pos early]
    · rfl
    · intro all
      have := all ⟨_, room early⟩
      rw [State.queuedEvents_setSlot_self, QueuedEvent.id_store] at this
      omega
  · have above : ∀ i, (l.st.queuedEvents i).id ≠ 0 → c.id < (l.st.queuedEvents i).id := by
      intro i busy
      have := h.tidy.above i busy
      have := h.settled i
      omega
    have tidy : Tidy (l.st.setHighest c.id) := ⟨above, h.tidy.inj, h.tidy.used⟩
    rw [dispatch_next (by omega), (tryFlushEvents_spec tidy).2.2, if_neg early]
    rfl

variable (spurious : Call → Nat) (memory : Slot → QueuedEvent)

section Arrivals

variable {f n : Nat} {calls : List Call} (h : Arrivals f n calls)
include h

theorem Arrivals.run_first {c : Call} {post : List Call} (split : calls = c :: post) :
    Ordered f [c] (run spurious memory [c]) ∧
    (run spurious memory [c]).st.queuedEventCount = slotsUsed (calls.map Call.id) 1 := by
  have id : c.id = f := by simpa [split] using h.first
  have pos := h.pos
  have lt := h.lt (c := c) (by simp [split])
  have ordered : Ordered f [c] (run spurious memory [c]) :=
    id ▸ Ordered.first spurious rfl (fun _ => rfl) rfl
      (fun _ hd => absurd hd List.not_mem_nil) .nil (fun _ hd => absurd hd List.not_mem_nil)
      (fun _ hd => absurd hd List.not_mem_nil) (by omega) lt
  refine ⟨ordered, ?_⟩
  have empty : Tidy ((State.initial memory).setHighest c.id) :=
    ⟨fun i busy => absurd rfl busy, fun i _ busy => absurd rfl busy, fun i busy => absurd rfl busy⟩
  have count : (run spurious memory [c]).st.queuedEventCount = 0 := by
    change (processEvent (spurious c) (.initial memory) c).1.queuedEventCount = 0
    rw [processEvent_first _ rfl lt (by omega), (tryFlushEvents_spec empty).2.2]
    exact ite_self 0
  have notEarly : ¬ Early (calls.map Call.id) 0 := by
    rw [split, List.map_cons, ← List.nil_append (c.id :: _), ← List.length_nil (α := Nat),
      early_iff]
    rintro ⟨y, hy, small⟩
    obtain ⟨d, hd, rfl⟩ := List.mem_map.mp hy
    have := (h.id_mem (c := d) (by simp [split, hd])).1
    omega
  rw [count, slotsUsed, if_neg notEarly, slotsUsed, ite_self]

theorem Arrivals.run_take {pre : List Call} : ∀ {post : List Call}, calls = pre ++ post →
    pre ≠ [] → (∀ k < pre.length, Early (calls.map Call.id) k →
      slotsUsed (calls.map Call.id) k < maxQueuedEvents) →
    Ordered f pre (run spurious memory pre) ∧
    (run spurious memory pre).st.queuedEventCount = slotsUsed (calls.map Call.id) pre.length := by
  induction pre using List.reverseRecOn with
  | nil => exact fun _ ne => absurd rfl ne
  | append_singleton pre c ih =>
    intro post split _ fits
    have split' : calls = pre ++ c :: post := by rw [split, List.append_assoc]; rfl
    rw [run_append]
    by_cases start : pre = []
    · subst start
      exact h.run_first spurious memory split'
    · obtain ⟨ordered, count⟩ := ih split' start fun k hk => fits k (by simp; omega)
      have later := h.post_above split' ordered (d := c) (by simp)
      have early := h.early_iff_queued split' ordered
      have room : (run spurious memory pre).st.highestId + 1 < c.id →
          (run spurious memory pre).st.queuedEventCount < maxQueuedEvents := by
        intro queued
        rw [count]
        exact fits _ (by simp) (early.mpr queued)
      have next : Ordered f (pre ++ [c]) (Sequencer.submit spurious (run spurious memory pre) c) :=
        ordered.submit spurious (fun d hd => h.lt (by rw [split]; exact List.mem_append_left _ hd))
          (fun _ d hd => h.disjoint split' d hd c (by simp)) room
      refine ⟨next, ?_⟩
      have gapFree := h.empty_iff split next
      rw [ordered.count_submit spurious later room, List.length_append, List.length_singleton,
        slotsUsed, ← count]
      rw [List.length_append, List.length_singleton] at gapFree
      simp only [gapFree, early]

end Arrivals

/-- What the queue is for: every event once, in the order of the ids. -/
structure DeliversAll (calls : List Call) (l : Log) : Prop where
  once : (l.delivered.map (·.call)).Perm calls
  inOrder : (l.delivered.map (·.call.id)).Pairwise (· < ·)
  noOverflow : ∀ d ∈ l.delivered, d.branch ≠ .overflow
  drained : ∀ i, (l.st.queuedEvents i).id = 0

theorem mem_delivered_append {pre : List Call} {d : Delivery} (post : List Call)
    (h : d ∈ (run spurious memory pre).delivered) :
    d ∈ (run spurious memory (pre ++ post)).delivered := by
  induction post using List.reverseRecOn with
  | nil => rwa [List.append_nil]
  | append_singleton post c ih =>
    rw [← List.append_assoc, run_append, delivered_submit]
    exact List.mem_append_left _ ih

section Arrivals

variable {f n : Nat} {calls : List Call} (h : Arrivals f n calls)
include h

theorem Arrivals.overflows {k : Nat} (hk : k < calls.length) (early : Early (calls.map Call.id) k)
    (full : maxQueuedEvents ≤ slotsUsed (calls.map Call.id) k)
    (fits : ∀ j < k, Early (calls.map Call.id) j →
      slotsUsed (calls.map Call.id) j < maxQueuedEvents) :
    ⟨calls[k], .overflow⟩ ∈ (run spurious memory calls).delivered := by
  -- The first early arrival that finds all slots used is handed out at once.
  have split : calls = calls.take k ++ calls[k] :: calls.drop (k + 1) := by
    rw [← List.drop_eq_getElem_cons hk, List.take_append_drop]
  have length : (calls.take k).length = k := by rw [List.length_take]; omega
  have ne : calls.take k ≠ [] := by
    intro nil
    rw [nil, List.length_nil] at length
    rw [← length, slotsUsed] at full
    exact absurd full (by decide)
  obtain ⟨ordered, count⟩ := h.run_take spurious memory split ne
    fun j hj => fits j (by rwa [length] at hj)
  have queued := (h.early_iff_queued split ordered).mp (by rwa [length])
  rw [length] at count
  have last : ⟨calls[k], .overflow⟩ ∈
      (run spurious memory (calls.take k ++ [calls[k]])).delivered := by
    rw [run_append, delivered_submit, processEvent_registered _ ordered.registered (by omega),
      dispatch_overflow queued (by omega)]
    simp
  have := mem_delivered_append spurious memory (calls.drop (k + 1)) last
  rwa [List.append_assoc, List.singleton_append, ← split] at this

theorem Arrivals.delivers (fits : FitsQueue (calls.map Call.id)) :
    DeliversAll calls (run spurious memory calls) := by
  -- If no early arrival finds all slots used, everything is delivered in order.
  have split : calls = calls ++ [] := (List.append_nil calls).symm
  have ne : calls ≠ [] := by
    rintro rfl
    simpa using h.first
  obtain ⟨ordered, -⟩ := h.run_take spurious memory split ne
    fun k hk => fits k (by rwa [List.length_map])
  have all : ∀ c ∈ calls, c.id ≤ (run spurious memory calls).st.highestId := by
    intro c hc
    by_contra later
    simpa using (h.gap split ordered hc).mp (by omega)
  have ge : ∀ d ∈ (run spurious memory calls).delivered, f ≤ d.call.id :=
    fun d hd => (h.id_mem (ordered.source d hd)).1
  have ids : (run spurious memory calls).delivered.map (·.call.id) =
      List.range' f ((run spurious memory calls).st.highestId + 1 - f) := by
    rw [← ordered.ids, List.filter_eq_self.mpr]
    intro x hx
    obtain ⟨d, hd, rfl⟩ := List.mem_map.mp hx
    simpa using ge d hd
  have inOrder : ((run spurious memory calls).delivered.map (·.call.id)).Pairwise (· < ·) := by
    rw [ids]
    exact List.pairwise_lt_range'
  refine ⟨?_, inOrder, ordered.calm, ?_⟩
  · refine (List.perm_ext_iff_of_nodup ?_ (h.nodup.of_map _)).mpr fun c => ⟨?_, fun hc => ?_⟩
    · refine List.Nodup.of_map Call.id ?_
      rw [List.map_map]
      exact inOrder.imp fun lt => lt.ne
    · rintro hc
      obtain ⟨d, hd, rfl⟩ := List.mem_map.mp hc
      exact ordered.source d hd
    · exact ordered.delivered_of_le h.distinct hc (all c hc)
  · refine (h.empty_iff split ordered).mpr fun i hi j hj le => ?_
    rw [List.length_map] at hj
    omega

end Arrivals

/-- Every event is handed out once and in order, without overflow and with an
empty queue at the end, exactly when the arrival order fits the queue. -/
theorem capacity (f n : Nat) (calls : List Call) (h : Arrivals f n calls) :
    DeliversAll calls (run spurious memory calls) ↔ FitsQueue (calls.map Call.id) := by
  refine ⟨fun delivers => ?_, h.delivers spurious memory⟩
  by_contra unfit
  unfold FitsQueue at unfit
  push Not at unfit
  obtain ⟨lt, early, full⟩ := Nat.find_spec unfit
  refine delivers.noOverflow _ (h.overflows spurious memory (lt.trans_eq (List.length_map _))
    early full fun j hj early => ?_) rfl
  by_contra full
  exact Nat.find_min unfit hj ⟨hj.trans lt, early, by omega⟩

theorem capacity_three :
    let calls := [1, 3, 2].map Call.bare
    DeliversAll calls (run (fun _ => 0) (fun _ => .zeroed) calls) :=
  (capacity (fun _ => 0) (fun _ => .zeroed) 1 2 ([1, 3, 2].map .bare)
    ⟨by decide, by decide, by decide, by decide⟩).mpr (by decide)

def undelivered (calls : List Call) (l : Log) : List Call :=
  calls.filter fun c => c ∉ l.delivered.map (·.call)

theorem undelivered_length_submit (pre : List Call) (c : Call) :
    (undelivered (pre ++ [c]) (run spurious memory (pre ++ [c]))).length ≤
      (undelivered pre (run spurious memory pre)).length + 1 := by
  unfold undelivered
  rw [List.filter_append, List.length_append]
  refine Nat.add_le_add ?_ (List.length_filter_le _ _)
  refine (List.monotone_filter_right pre fun d missing => ?_).length_le
  rw [decide_eq_true_eq] at missing ⊢
  intro mem
  obtain ⟨e, he, rfl⟩ := List.mem_map.mp mem
  exact missing (List.mem_map_of_mem (mem_delivered_append spurious memory [c] he))

def crossingId (p : Nat) : Nat :=
  if p = 0 then 1 else if p = 1 then 3 else if p = 514 then 514
  else if p % 2 = 0 then p + 3 else p - 1

def crossing : List Call := (List.range 515).map fun p => .bare (crossingId p)

theorem crossing_ids : crossing.map Call.id = (List.range 515).map crossingId :=
  List.map_map

theorem crossing_getD {p : Nat} (hp : p < 515) :
    (crossing.map Call.id).getD p 0 = crossingId p := by
  simp [crossing_ids, hp]

theorem crossing_length : (crossing.map Call.id).length = 515 := by
  simp [crossing_ids]

theorem crossing_gap {k : Nat} (ge : 2 ≤ k) (le : k ≤ 512) :
    ¬ GapFree (crossing.map Call.id) k := by
  intro free
  have gap : ∀ i j, i < k → k ≤ j → j < 515 → crossingId i < crossingId j := by
    intro i j hi le hj
    have := free i hi j (by rwa [crossing_length]) le
    rwa [crossing_getD hj, crossing_getD (by omega)] at this
  rcases Nat.even_or_odd' k with ⟨m, even | odd⟩
  · have := gap (k - 2) (k + 1)
    have := gap 1 3
    grind [crossingId]
  · have := gap (k - 1) k
    grind [crossingId]

theorem crossing_early {k : Nat} (ge : 2 ≤ k) (le : k ≤ 512) :
    Early (crossing.map Call.id) k ↔ k % 2 = 0 := by
  constructor
  · rintro ⟨j, lt, after, small⟩
    rw [crossing_length] at lt
    rw [crossing_getD lt, crossing_getD (by omega)] at small
    grind [crossingId]
  · intro even
    refine ⟨k + 1, by rw [crossing_length]; omega, by omega, ?_⟩
    rw [crossing_getD (by omega), crossing_getD (by omega)]
    grind [crossingId]

theorem crossing_slotsUsed {k : Nat} (ge : 2 ≤ k) (le : k ≤ 512) :
    slotsUsed (crossing.map Call.id) k = (k + 1) / 2 := by
  induction k, ge using Nat.le_induction with
  | base =>
    have free : GapFree (crossing.map Call.id) 1 := by
      intro i hi j hj le
      rw [crossing_length] at hj
      rw [crossing_getD hj, crossing_getD (by omega)]
      grind [crossingId]
    have early : Early (crossing.map Call.id) 1 := by
      refine ⟨3, by rw [crossing_length]; decide, by decide, ?_⟩
      rw [crossing_getD (by decide), crossing_getD (by decide)]
      decide
    exact (slotsUsed_early (crossing_gap le_rfl le) early).trans
      (congrArg (· + 1) (slotsUsed_reset free))
  | succ k ge ih =>
    have gap : ¬ GapFree (crossing.map Call.id) (k + 1) := crossing_gap (by omega) le
    have early := crossing_early ge (by omega)
    by_cases even : k % 2 = 0
    · rw [slotsUsed_early gap (early.mpr even), ih (by omega)]
      omega
    · rw [slotsUsed_late gap (even ∘ early.mp), ih (by omega)]
      omega

theorem crossing_fits {k : Nat} (lt : k < 512) (early : Early (crossing.map Call.id) k) :
    slotsUsed (crossing.map Call.id) k < maxQueuedEvents := by
  by_cases ge : 2 ≤ k
  · rw [crossing_early ge (by omega)] at early
    rw [crossing_slotsUsed ge (by omega), maxQueuedEvents]
    omega
  · have := slotsUsed_le (crossing.map Call.id) k
    exact (show _ < 2 by omega).trans (by decide)

theorem crossing_perm : (crossing.map Call.id).Perm (List.range' 1 515) := by
  rw [crossing_ids]
  refine (List.perm_ext_iff_of_nodup ?_ List.nodup_range').mpr fun x => ?_
  · refine List.nodup_range.map_on fun i hi j hj same => ?_
    rw [List.mem_range] at hi hj
    grind [crossingId]
  · rw [List.mem_map, List.mem_range'_1]
    constructor
    · intro ⟨p, hp, id⟩
      rw [List.mem_range] at hp
      grind [crossingId]
    · intro bounds
      refine ⟨if x = 1 then 0 else if x = 3 then 1 else if x = 514 then 514
        else if x % 2 = 0 then x + 1 else x - 3, ?_, ?_⟩
      · rw [List.mem_range]
        grind
      · grind [crossingId]

theorem crossing_arrivals : Arrivals 1 514 crossing :=
  ⟨by decide, by decide, crossing_perm, by
    rw [crossing_ids, List.head?_map, List.head?_range]
    rfl⟩

theorem crossing_take {k : Nat} {c : Call} (h : c ∈ crossing.take k) :
    ∃ i < k, i < 515 ∧ c.id = crossingId i := by
  obtain ⟨i, hi, rfl⟩ := List.mem_take_iff_getElem.mp h
  have length : crossing.length = 515 := by simp [crossing]
  exact ⟨i, by omega, by omega, by simp [crossing, Call.bare]⟩

theorem crossing_drop {k : Nat} {c : Call} (h : c ∈ crossing.drop k) :
    ∃ j, k ≤ j ∧ j < 515 ∧ c.id = crossingId j := by
  obtain ⟨j, hj, rfl⟩ := List.mem_drop_iff_getElem.mp h
  have length : crossing.length = 515 := by simp [crossing]
  exact ⟨k + j, by omega, by omega, by simp [crossing, Call.bare]⟩

theorem crossing_undelivered_take {k : Nat} (le : k ≤ 512) :
    (undelivered (crossing.take k) (run spurious memory (crossing.take k))).length ≤ 3 := by
  -- Whatever arrived more than three calls ago was handed out.
  by_cases short : k ≤ 3
  · refine (List.length_filter_le _ _).trans ?_
    rw [List.length_take]
    omega
  have split : crossing = crossing.take k ++ crossing.drop k := (List.take_append_drop k _).symm
  have length : (crossing.take k).length = k := by simp [crossing]; omega
  have ne : crossing.take k ≠ [] := List.ne_nil_of_length_pos (by omega)
  obtain ⟨ordered, -⟩ := crossing_arrivals.run_take spurious memory split ne
    fun j hj => crossing_fits (by omega)
  have old : ∀ c ∈ crossing.take (k - 3),
      c ∈ (run spurious memory (crossing.take k)).delivered.map (·.call) := by
    intro c hc
    have hc' : c ∈ crossing.take k := List.take_subset_take_left _ (by omega) hc
    have distinct : DistinctIds (crossing.take k) :=
      (crossing_arrivals.nodup.sublist ((List.take_sublist _ _).map _)).filter _
    refine ordered.delivered_of_le distinct hc' ?_
    by_contra later
    obtain ⟨d, hd, small⟩ := (crossing_arrivals.gap split ordered hc').mp (by omega)
    obtain ⟨i, hi, -, early⟩ := crossing_take hc
    obtain ⟨j, hj, -, late⟩ := crossing_drop hd
    rw [early, late] at small
    grind [crossingId]
  have recent := (List.take_append_drop (k - 3) (crossing.take k)).symm
  rw [List.take_take, Nat.min_eq_left (Nat.sub_le _ _)] at recent
  unfold undelivered
  rw [recent, List.filter_append, ← recent, List.filter_eq_nil_iff.mpr (by simpa using old)]
  refine (List.length_filter_le _ _).trans ?_
  rw [List.length_drop]
  omega

theorem crossing_undelivered (k : Nat) :
    (undelivered (crossing.take (512 + k))
      (run spurious memory (crossing.take (512 + k)))).length ≤ 3 + k := by
  induction k with
  | zero => exact crossing_undelivered_take spurious memory le_rfl
  | succ k ih =>
    by_cases lt : 512 + k < crossing.length
    · rw [← Nat.add_assoc, List.take_succ_eq_append_getElem lt]
      exact (undelivered_length_submit spurious memory _ _).trans (Nat.add_le_add_right ih 1)
    · rw [List.take_of_length_le (by omega)] at ih ⊢
      omega

/-- With at most six events waiting at any time, id 515 finds no slot. -/
theorem capacity_crossing :
    let l := fun k => run (fun _ => 0) (fun _ => .zeroed) (crossing.take k)
    Arrivals 1 514 crossing ∧
      (∀ k ≤ 515, (undelivered (crossing.take k) (l k)).length ≤ 6) ∧
      ⟨.bare 515, .overflow⟩ ∈ (l 515).delivered ∧ ¬ DeliversAll crossing (l 515) := by
  have length : crossing.length = 515 := by simp [crossing]
  have hk : 512 < crossing.length := by omega
  have overflow := crossing_arrivals.overflows (fun _ => 0) (fun _ => .zeroed) hk
    ((crossing_early (by decide) le_rfl).mpr rfl)
    (crossing_slotsUsed (by decide) le_rfl).ge fun j lt => crossing_fits lt
  have id : crossing[512] = .bare 515 := by simp [crossing, crossingId]
  rw [id, ← List.take_of_length_le (Nat.le_of_eq length)] at overflow
  refine ⟨crossing_arrivals, fun k le => ?_, overflow, fun all => all.noOverflow _ overflow rfl⟩
  by_cases small : k ≤ 512
  · exact (crossing_undelivered_take _ _ small).trans (by decide)
  · have := crossing_undelivered (fun _ => 0) (fun _ => .zeroed) (k - 512)
    rw [Nat.add_sub_of_le (by omega)] at this
    exact this.trans (by omega)

end ArcdpsHealing.Sequencer
