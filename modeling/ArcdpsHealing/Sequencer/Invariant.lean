import ArcdpsHealing.Sequencer.Order

namespace ArcdpsHealing.Sequencer

section Call

variable (spurious : Nat) {s : State} {c : Call}

theorem loop_registered (h : s.highestId ≠ unregistered) :
    loop c spurious s s.highestId = dispatch s c s.highestId := by
  cases spurious <;> simp [loop, h]

theorem loop_first (h : s.highestId = unregistered) (lt : c.id < unregistered) :
    loop c spurious s s.highestId = dispatch (s.setHighest (c.id - 1)) c (c.id - 1) := by
  induction spurious with
  | zero => simp [loop, h, lt.ne']
  | succ n ih => simpa [loop, h, lt.ne'] using ih

theorem dispatch_lower (le : c.id ≤ s.highestId) :
    ∃ b, dispatch s c s.highestId = (s, [⟨c, b⟩]) ∧ b ≠ .overflow := by
  by_cases twice : s.highestId = c.id
  · exact ⟨.twice, by simp [dispatch, twice], by decide⟩
  · have lower : s.highestId > c.id - 1 := by omega
    exact ⟨.lower, by simp [dispatch, twice, lower], by decide⟩

theorem dispatch_next (eq : c.id = s.highestId + 1) :
    dispatch s c s.highestId = ((tryFlushEvents (s.setHighest c.id)).1,
      ⟨c, .fastPath⟩ :: (tryFlushEvents (s.setHighest c.id)).2) := by
  have notTwice : s.highestId ≠ c.id := by omega
  have notLower : ¬ s.highestId > c.id - 1 := by omega
  have next : s.highestId = c.id - 1 := by omega
  rw [dispatch, if_neg notTwice, if_neg notLower, if_pos next]

theorem dispatch_queue (lt : s.highestId + 1 < c.id) (room : s.queuedEventCount < maxQueuedEvents) :
    dispatch s c s.highestId = ((s.setCount (s.queuedEventCount + 1)).setSlot ⟨_, room⟩
      ((s.queuedEvents ⟨_, room⟩).store c), []) := by
  have notTwice : s.highestId ≠ c.id := by omega
  have notLower : ¬ s.highestId > c.id - 1 := by omega
  have notNext : s.highestId ≠ c.id - 1 := by omega
  have small : fetchAdd s.queuedEventCount = s.queuedEventCount + 1 := by
    simp only [fetchAdd, maxQueuedEvents] at room ⊢
    omega
  rw [dispatch, if_neg notTwice, if_neg notLower, if_neg notNext, dif_pos room, small]
  rfl

structure Queued (s t : State) (c : Call) (free : Slot) : Prop where
  highest : t.highestId = s.highestId
  count : t.queuedEventCount = s.queuedEventCount + 1
  last : free.val = s.queuedEventCount
  here : t.queuedEvents free = (s.queuedEvents free).store c
  other : ∀ i, i ≠ free → t.queuedEvents i = s.queuedEvents i

theorem dispatch_overflow (lt : s.highestId + 1 < c.id)
    (full : maxQueuedEvents ≤ s.queuedEventCount) :
    dispatch s c s.highestId = (s.setCount (fetchAdd s.queuedEventCount), [⟨c, .overflow⟩]) := by
  have notTwice : s.highestId ≠ c.id := by omega
  have notLower : ¬ s.highestId > c.id - 1 := by omega
  have notNext : s.highestId ≠ c.id - 1 := by omega
  rw [dispatch, if_neg notTwice, if_neg notLower, if_neg notNext, dif_neg (by omega)]

theorem processEvent_registered (h : s.highestId ≠ unregistered) (pos : c.id ≠ 0) :
    processEvent spurious s c = dispatch s c s.highestId := by
  rw [processEvent, if_neg pos, loop_registered spurious h]

theorem processEvent_queue (h : s.highestId ≠ unregistered) (early : s.highestId + 1 < c.id)
    (room : s.queuedEventCount < maxQueuedEvents) :
    Queued s (processEvent spurious s c).1 c ⟨_, room⟩ ∧ (processEvent spurious s c).2 = [] := by
  rw [processEvent_registered spurious h (by omega), dispatch_queue early room]
  refine ⟨⟨rfl, rfl, rfl, State.queuedEvents_setSlot_self _ _ _, fun i ne => ?_⟩, rfl⟩
  rw [State.queuedEvents_setSlot, if_neg ne]
  rfl

theorem Queued.empty {t : State} {free : Slot} (h : Queued s t c free) (rest : Resting s) :
    (s.queuedEvents free).id = 0 := by
  by_contra busy
  exact (rest.used free busy).ne h.last

theorem Queued.resting {t : State} {free : Slot} (h : Queued s t c free) (rest : Resting s)
    (early : s.highestId + 1 < c.id) : Resting t where
  used i busy := by
    rw [h.count]
    by_cases hi : i = free
    · rw [hi, h.last]
      exact Nat.lt_succ_self _
    · rw [h.other i hi] at busy
      exact (rest.used i busy).trans (Nat.lt_succ_self _)
  room := by
    rw [h.count, ← h.last]
    exact free.isLt
  settled i := by
    rw [h.highest]
    by_cases hi : i = free
    · rw [hi, h.here, QueuedEvent.id_store]
      omega
    · rw [h.other i hi]
      exact rest.settled i

theorem Queued.waiting {t : State} {free : Slot} (h : Queued s t c free) (rest : Resting s)
    (pos : c.id ≠ 0) : waiting t = waiting s + {c} := by
  have moved := waiting_of_other h.other
  have stored : ((s.queuedEvents free).store c).id ≠ 0 := by rwa [QueuedEvent.id_store]
  rwa [h.here, held_of_empty (h.empty rest), held_of_busy stored, add_zero,
    QueuedEvent.load_store] at moved

theorem processEvent_first (h : s.highestId = unregistered) (lt : c.id < unregistered)
    (pos : c.id ≠ 0) :
    processEvent spurious s c = ((tryFlushEvents (s.setHighest c.id)).1,
      ⟨c, .fastPath⟩ :: (tryFlushEvents (s.setHighest c.id)).2) := by
  rw [processEvent, if_neg pos, loop_first spurious h lt]
  exact dispatch_next (s := s.setHighest (c.id - 1))
    (by simp only [State.highestId_setHighest]; omega)

end Call

structure Ordered (f : Nat) (calls : List Call) (l : Log) : Prop where
  tidy : Tidy l.st
  settled : ∀ i, (l.st.queuedEvents i).id ≠ l.st.highestId + 1
  pos : 0 < f
  ge : f ≤ l.st.highestId
  lt : l.st.highestId < unregistered
  ids : (l.delivered.map (·.call.id)).filter (f ≤ ·) = List.range' f (l.st.highestId + 1 - f)
  own : List.Forall₂ (fun c out => c.id < f → ∃ b, out = [⟨c, b⟩]) calls l.outs
  waiting : ∀ i, (l.st.queuedEvents i).id ≠ 0 → (l.st.queuedEvents i).load ∈ calls
  queued : ∀ c ∈ calls, l.st.highestId < c.id → ∃ i, (l.st.queuedEvents i).load = c
  source : ∀ d ∈ l.delivered, d.call ∈ calls
  calm : ∀ d ∈ l.delivered, d.branch ≠ .overflow
  drained : l.st.queuedEventCount = 0 ↔ ∀ i, (l.st.queuedEvents i).id = 0
  room : l.st.queuedEventCount ≤ maxQueuedEvents

@[simp] theorem delivered_submit (spurious : Call → Nat) (l : Log) (c : Call) :
    (submit spurious l c).delivered = l.delivered ++ (processEvent (spurious c) l.st c).2 := by
  simp [submit, Log.delivered]

@[simp] theorem st_submit (spurious : Call → Nat) (l : Log) (c : Call) :
    (submit spurious l c).st = (processEvent (spurious c) l.st c).1 := rfl

theorem own_submit {spurious : Call → Nat} {l : Log} {calls : List Call} {c : Call}
    {R : Call → List Delivery → Prop} (before : List.Forall₂ R calls l.outs)
    (last : R c (processEvent (spurious c) l.st c).2) :
    List.Forall₂ R (calls ++ [c]) (submit spurious l c).outs :=
  List.rel_append before (.cons last .nil)

theorem filter_ids_append {f h n : Nat} {before out : List Delivery} (ge : f ≤ h)
    (ids : (before.map (·.call.id)).filter (f ≤ ·) = List.range' f (h - f))
    (more : out.map (·.call.id) = List.range' h n) :
    ((before ++ out).map (·.call.id)).filter (f ≤ ·) = List.range' f (h + n - f) := by
  have all : (out.map (·.call.id)).filter (f ≤ ·) = out.map (·.call.id) := by
    rw [List.filter_eq_self, more]
    intro x hx
    rw [List.mem_range'_1] at hx
    simp only [decide_eq_true_eq]
    omega
  have split : h + n - f = (h - f) + n := by omega
  rw [List.map_append, List.filter_append, ids, all, more, split, ← List.range'_append_1]
  congr 2
  omega

theorem Ordered.flush {f : Nat} {calls : List Call} {l : Log} {spurious : Call → Nat} {c : Call}
    (tidy : Tidy (l.st.setHighest c.id)) (room : l.st.queuedEventCount ≤ maxQueuedEvents)
    (pos : 0 < f) (ge : f ≤ c.id) (lt : c.id < unregistered)
    (calls_lt : ∀ d ∈ calls, d.id < unregistered)
    (ids : (l.delivered.map (·.call.id)).filter (f ≤ ·) = List.range' f (c.id - f))
    (own : List.Forall₂ (fun c out => c.id < f → ∃ b, out = [⟨c, b⟩]) calls l.outs)
    (waiting : ∀ i, (l.st.queuedEvents i).id ≠ 0 → (l.st.queuedEvents i).load ∈ calls)
    (queued : ∀ d ∈ calls, c.id < d.id → ∃ i, (l.st.queuedEvents i).load = d)
    (source : ∀ d ∈ l.delivered, d.call ∈ calls) (calm : ∀ d ∈ l.delivered, d.branch ≠ .overflow)
    (result : processEvent (spurious c) l.st c =
      ((tryFlushEvents (l.st.setHighest c.id)).1,
        ⟨c, .fastPath⟩ :: (tryFlushEvents (l.st.setHighest c.id)).2)) :
    Ordered f (calls ++ [c]) (submit spurious l c) := by
  -- What a flush does to the invariant, in a state where `c` was the call to raise `mHighestId`
  -- to its own id.
  obtain ⟨flushed, -, count⟩ := tryFlushEvents_spec tidy
  have rest : Resting (tryFlushEvents (l.st.setHighest c.id)).1 :=
    resting_tryFlushEvents tidy.used room
  generalize (tryFlushEvents (l.st.setHighest c.id)).1 = t at *
  generalize (tryFlushEvents (l.st.setHighest c.id)).2 = out at *
  have st : (submit spurious l c).st = t := by rw [st_submit, result]
  have delivered : (submit spurious l c).delivered = l.delivered ++ ⟨c, .fastPath⟩ :: out := by
    rw [delivered_submit, result]
  have le : c.id ≤ t.highestId := flushed.le
  -- a flushed event was waiting, so it is one of the calls
  have from_calls : ∀ d ∈ out, d.call ∈ calls := by
    intro d hd
    obtain ⟨i, busy, load⟩ := flushed.waited hd
    exact load ▸ waiting i busy
  have kept : ∀ i, (t.queuedEvents i).id ≠ 0 → t.queuedEvents i = l.st.queuedEvents i :=
    fun i busy => (flushed.slot_eq busy).1
  refine ⟨st ▸ flushed.tidy tidy rest.used, st ▸ rest.settled, pos, ?_, ?_, ?_, ?_, ?_, ?_, ?_, ?_,
    ?_, st ▸ rest.room⟩
  · rw [st]
    exact ge.trans le
  · rw [st]
    by_cases same : t.highestId = c.id
    · exact same ▸ lt
    · obtain ⟨d, hd, id⟩ := (mem_ids flushed.ids).mpr
        ⟨(Nat.lt_of_le_of_ne le (Ne.symm same) : c.id < t.highestId), le_rfl⟩
      exact id ▸ calls_lt _ (from_calls d hd)
  · have next : ((⟨c, .fastPath⟩ :: out).map (·.call.id) : List Nat) =
        List.range' c.id (t.highestId - c.id + 1) := by
      rw [List.range'_succ]
      simpa using flushed.ids
    rw [st, delivered, filter_ids_append ge ids next]
    congr 1
    omega
  · exact own_submit own fun lt => absurd lt (by omega)
  · intro i busy
    rw [st] at busy ⊢
    rw [kept i busy]
    exact List.mem_append_left _ (waiting i (kept i busy ▸ busy))
  · intro d hd later
    rw [st] at later ⊢
    rcases List.mem_append.mp hd with hd | hd
    · obtain ⟨i, load⟩ := queued d hd (by omega)
      have id : (l.st.queuedEvents i).id = d.id := congrArg Call.id load
      have same := flushed.kept i (by rw [State.queuedEvents_setHighest]; omega)
      exact ⟨i, by rw [same]; exact load⟩
    · rw [List.mem_singleton.mp hd] at later
      omega
  · intro d hd
    rw [delivered] at hd
    rcases List.mem_append.mp hd with hd | hd
    · exact List.mem_append_left _ (source d hd)
    · rcases List.mem_cons.mp hd with rfl | hd
      · exact List.mem_append_right _ (List.mem_singleton.mpr rfl)
      · exact List.mem_append_left _ (from_calls d hd)
  · intro d hd
    rw [delivered] at hd
    rcases List.mem_append.mp hd with hd | hd
    · exact calm d hd
    · rcases List.mem_cons.mp hd with rfl | hd
      · exact Branch.noConfusion
      · rw [(flushed.source d hd).1]
        exact Branch.noConfusion
  · rw [st]
    constructor
    · intro zero i
      by_contra busy
      exact absurd (rest.used i busy) (by omega)
    · intro all
      rw [count, if_pos all]

theorem processEvent_lower (spurious : Nat) {s : State} {c : Call} (h : s.highestId ≠ unregistered)
    (le : c.id ≤ s.highestId) :
    ∃ b, processEvent spurious s c = (s, [⟨c, b⟩]) ∧ b ≠ .overflow := by
  by_cases zero : c.id = 0
  · exact ⟨.idZero, by simp [processEvent, zero], by decide⟩
  · obtain ⟨b, eq, ne⟩ := dispatch_lower le
    exact ⟨b, by rw [processEvent_registered spurious h zero, eq], ne⟩

section Submit

variable {f : Nat} {calls : List Call} {l : Log} {c : Call} (spurious : Call → Nat)

theorem Ordered.registered (h : Ordered f calls l) : l.st.highestId ≠ unregistered := h.lt.ne

theorem Ordered.lower (h : Ordered f calls l) (distinct : c.id ≠ 0 → ∀ d ∈ calls, d.id ≠ c.id)
    (le : c.id ≤ l.st.highestId) : c.id < f := by
  by_contra ge
  have pos := h.pos
  have mem : c.id ∈ (l.delivered.map (·.call.id)).filter (f ≤ ·) := by
    rw [h.ids, List.mem_range'_1]
    omega
  obtain ⟨d, hd, id⟩ := List.mem_map.mp (List.mem_filter.mp mem).1
  exact distinct (by omega) _ (h.source d hd) id

theorem Ordered.submit_lower (h : Ordered f calls l) (lt : c.id < f)
    (le : c.id ≤ l.st.highestId) : Ordered f (calls ++ [c]) (submit spurious l c) := by
  obtain ⟨b, eq, calm⟩ := processEvent_lower (spurious c) h.registered le
  have st : (submit spurious l c).st = l.st := by rw [st_submit, eq]
  have delivered : (submit spurious l c).delivered = l.delivered ++ [⟨c, b⟩] := by
    rw [delivered_submit, eq]
  refine ⟨st ▸ h.tidy, st ▸ h.settled, h.pos, st ▸ h.ge, st ▸ h.lt, ?_, ?_, ?_, ?_, ?_, ?_,
    st ▸ h.drained, st ▸ h.room⟩
  · rw [delivered, st, List.map_append, List.filter_append, h.ids]
    simp [lt]
  · exact own_submit h.own fun _ => ⟨b, by rw [eq]⟩
  · intro i busy
    rw [st] at busy ⊢
    exact List.mem_append_left _ (h.waiting i busy)
  · intro d hd later
    rw [st] at later ⊢
    rcases List.mem_append.mp hd with hd | hd
    · exact h.queued d hd later
    · rw [List.mem_singleton.mp hd] at later
      omega
  · intro d hd
    rw [delivered] at hd
    rcases List.mem_append.mp hd with hd | hd
    · exact List.mem_append_left _ (h.source d hd)
    · rw [List.mem_singleton.mp hd]
      exact List.mem_append_right _ (List.mem_singleton.mpr rfl)
  · intro d hd
    rw [delivered] at hd
    rcases List.mem_append.mp hd with hd | hd
    · exact h.calm d hd
    · rwa [List.mem_singleton.mp hd]

theorem Ordered.submit_next (h : Ordered f calls l) (lt : ∀ d ∈ calls ++ [c], d.id < unregistered)
    (next : c.id = l.st.highestId + 1) : Ordered f (calls ++ [c]) (submit spurious l c) := by
  have ge := h.ge
  have above : ∀ i, (l.st.queuedEvents i).id ≠ 0 → c.id < (l.st.queuedEvents i).id := by
    intro i busy
    have := h.tidy.above i busy
    have := h.settled i
    omega
  refine Ordered.flush ⟨above, h.tidy.inj, h.tidy.used⟩ h.room h.pos (by omega) (lt c (by simp))
    (fun d hd => lt d (by simp [hd])) ?_ h.own h.waiting ?_ h.source h.calm ?_
  · rw [h.ids, next]
  · exact fun d hd later => h.queued d hd (by omega)
  · rw [processEvent_registered _ h.registered (by omega), dispatch_next next]

theorem Ordered.resting (h : Ordered f calls l) : Resting l.st :=
  ⟨h.tidy.used, h.room, h.settled⟩

theorem Queued.tidy {s t : State} {free : Slot} (h : Queued s t c free) (tidy : Tidy s)
    (rest : Resting t) (later : s.highestId < c.id) (fresh : ∀ i, (s.queuedEvents i).id ≠ c.id) :
    Tidy t where
  above i busy := by
    rw [h.highest]
    by_cases hi : i = free
    · rwa [hi, h.here, QueuedEvent.id_store]
    · rw [h.other i hi] at busy ⊢
      exact tidy.above i busy
  inj i j busy same := by
    by_cases hi : i = free <;> by_cases hj : j = free
    · rw [hi, hj]
    · rw [hi, h.here, h.other j hj, QueuedEvent.id_store] at same
      exact absurd same.symm (fresh j)
    · rw [hj, h.here, h.other i hi, QueuedEvent.id_store] at same
      exact absurd same (fresh i)
    · rw [h.other i hi] at busy same
      rw [h.other j hj] at same
      exact tidy.inj i j busy same
  used := rest.used

theorem Ordered.submit_queue (h : Ordered f calls l)
    (distinct : c.id ≠ 0 → ∀ d ∈ calls, d.id ≠ c.id) (early : l.st.highestId + 1 < c.id)
    (room : l.st.queuedEventCount < maxQueuedEvents) :
    Ordered f (calls ++ [c]) (submit spurious l c) := by
  obtain ⟨queued, silent⟩ := processEvent_queue (spurious c) h.registered early room
  rw [← st_submit] at queued
  generalize (⟨_, room⟩ : Slot) = free at queued
  have rest := queued.resting h.resting early
  have delivered : (submit spurious l c).delivered = l.delivered := by
    rw [delivered_submit, silent, List.append_nil]
  have fresh : ∀ i, (l.st.queuedEvents i).id ≠ c.id := by
    intro i same
    exact distinct (by omega) _ (h.waiting i (by omega)) same
  refine ⟨queued.tidy h.tidy rest (by omega) fresh, rest.settled, h.pos, queued.highest ▸ h.ge,
    queued.highest ▸ h.lt, ?_, ?_, ?_, ?_, ?_, ?_, ?_, rest.room⟩
  · rw [delivered, queued.highest, h.ids]
  · exact own_submit h.own fun lt => by have := h.ge; omega
  · intro i busy
    by_cases hi : i = free
    · rw [hi, queued.here, QueuedEvent.load_store]
      exact List.mem_append_right _ (List.mem_singleton.mpr rfl)
    · rw [queued.other i hi] at busy ⊢
      exact List.mem_append_left _ (h.waiting i busy)
  · intro d hd later
    rw [queued.highest] at later
    rcases List.mem_append.mp hd with hd | hd
    · obtain ⟨i, load⟩ := h.queued d hd later
      have hi : i ≠ free := by
        rintro rfl
        have empty := queued.empty h.resting
        rw [← QueuedEvent.id_load, load] at empty
        omega
      exact ⟨i, by rw [queued.other i hi, load]⟩
    · rw [List.mem_singleton.mp hd]
      exact ⟨free, by rw [queued.here, QueuedEvent.load_store]⟩
  · intro d hd
    rw [delivered] at hd
    exact List.mem_append_left _ (h.source d hd)
  · rw [delivered]
    exact h.calm
  · rw [queued.count]
    constructor
    · omega
    · intro all
      have stored := all free
      rw [queued.here, QueuedEvent.id_store] at stored
      omega

theorem Ordered.submit (h : Ordered f calls l) (lt : ∀ d ∈ calls ++ [c], d.id < unregistered)
    (distinct : c.id ≠ 0 → ∀ d ∈ calls, d.id ≠ c.id)
    (room : l.st.highestId + 1 < c.id → l.st.queuedEventCount < maxQueuedEvents) :
    Ordered f (calls ++ [c]) (submit spurious l c) := by
  rcases Nat.lt_trichotomy c.id (l.st.highestId + 1) with le | next | early
  · exact h.submit_lower spurious (h.lower distinct (by omega)) (by omega)
  · exact h.submit_next spurious lt next
  · exact h.submit_queue spurious distinct early (room early)

theorem Ordered.first {calls : List Call} {l : Log} {c : Call} (spurious : Call → Nat)
    (start : l.st.highestId = unregistered) (empty : ∀ i, (l.st.queuedEvents i).id = 0)
    (count : l.st.queuedEventCount = 0) (zero : ∀ d ∈ calls, d.id = 0)
    (own : List.Forall₂ (fun c out => ∃ b, out = [⟨c, b⟩]) calls l.outs)
    (source : ∀ d ∈ l.delivered, d.call ∈ calls) (calm : ∀ d ∈ l.delivered, d.branch ≠ .overflow)
    (pos : c.id ≠ 0) (lt : c.id < unregistered) :
    Ordered c.id (calls ++ [c]) (Sequencer.submit spurious l c) := by
  refine Ordered.flush ⟨?_, ?_, ?_⟩ (by omega) (by omega) le_rfl lt ?_ ?_ ?_ ?_ ?_ source calm
    (processEvent_first _ start lt pos)
  · exact fun i busy => absurd (empty i) busy
  · exact fun i _ busy => absurd (empty i) busy
  · exact fun i busy => absurd (empty i) busy
  · exact fun d hd => by rw [zero d hd]; decide
  · rw [Nat.sub_self, List.range'_zero, List.filter_eq_nil_iff]
    intro x hx
    obtain ⟨d, hd, rfl⟩ := List.mem_map.mp hx
    have := zero _ (source d hd)
    simp only [decide_eq_true_eq]
    omega
  · refine own.imp ?_
    exact fun _ _ own _ => own
  · exact fun i busy => absurd (empty i) busy
  · exact fun d hd later => by rw [zero d hd] at later; omega

end Submit

end ArcdpsHealing.Sequencer
