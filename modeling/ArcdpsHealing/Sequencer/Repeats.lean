import ArcdpsHealing.Sequencer.Invariant

namespace ArcdpsHealing.Sequencer

def copies (k : Nat) (s : State) : Nat := (waiting s).countP (·.id = k)

def Clean (s : State) : Prop :=
  ∀ k, (k ≤ s.highestId → copies k s = 0) ∧ (s.highestId < k → copies k s ≤ 1)

/-- No id comes again before all smaller ids from `f` on have come. -/
def Prompt (f : Nat) (calls : List Call) : Prop :=
  ∀ before c after, calls = before ++ c :: after → (∃ d ∈ before, d.id = c.id) →
    ∀ m, f ≤ m → m < c.id → ∃ d ∈ before, d.id = m

theorem prompt_concat {f : Nat} {calls : List Call} {c : Call} :
    Prompt f (calls ++ [c]) ↔ Prompt f calls ∧ ((∃ d ∈ calls, d.id = c.id) →
      ∀ m, f ≤ m → m < c.id → ∃ d ∈ calls, d.id = m) := by
  constructor
  · intro prompt
    refine ⟨fun before d after split => ?_, prompt calls c [] rfl⟩
    exact prompt before d (after ++ [c]) (by simp [split])
  · rintro ⟨prompt, last⟩ before d after split
    rcases after.eq_nil_or_concat with rfl | ⟨after, e, rfl⟩
    · obtain ⟨rfl, same⟩ := List.append_inj' split rfl
      obtain rfl := List.singleton_inj.mp same
      exact last
    · rw [List.concat_eq_append, ← List.cons_append, ← List.append_assoc] at split
      exact prompt before d after (List.append_inj' split rfl).1

theorem copies_eq_zero_iff {k : Nat} {s : State} : copies k s = 0 ↔ ∀ c ∈ waiting s, c.id ≠ k :=
  Multiset.countP_eq_zero

theorem Drains.copies_eq {s t : State} {out : List Delivery} (h : Drains s t out) (k : Nat) :
    copies k s = copies k t + if s.highestId < k ∧ k ≤ t.highestId then 1 else 0 := by
  have le := h.le
  have taken : (out.map (·.call) : Multiset Call).countP (·.id = k) =
      (out.map (·.call.id)).count k := by
    rw [Multiset.coe_countP, List.countP_map, List.count, List.countP_map]
    congr 1
  unfold copies
  rw [← h.account, Multiset.countP_add, taken, h.ids, List.count_range_1', Nat.add_comm]
  congr 1
  exact if_congr (by omega) rfl rfl

theorem Drains.clean_iff {s t : State} {out : List Delivery} (h : Drains s t out) :
    Clean t ↔ Clean s := by
  have le := h.le
  refine forall_congr' fun k => ?_
  have same := h.copies_eq k
  split at same <;> omega

theorem clean_setHighest_iff {s : State} (settled : ∀ i, (s.queuedEvents i).id ≠ s.highestId + 1) :
    Clean (s.setHighest (s.highestId + 1)) ↔ Clean s := by
  have none : copies (s.highestId + 1) s = 0 := by
    rw [copies_eq_zero_iff]
    intro c mem
    obtain ⟨i, -, rfl⟩ := mem_waiting.mp mem
    exact settled i
  refine forall_congr' fun k => ?_
  change (k ≤ s.highestId + 1 → copies k s = 0) ∧ (s.highestId + 1 < k → copies k s ≤ 1) ↔ _
  by_cases next : k = s.highestId + 1
  · subst next
    omega
  · omega

structure Backlog (f : Nat) (calls : List Call) (l : Log) : Prop where
  ge : f ≤ l.st.highestId
  lt : l.st.highestId < unregistered
  used : ∀ i, (l.st.queuedEvents i).id ≠ 0 → i.val < l.st.queuedEventCount
  room : l.st.queuedEventCount ≤ maxQueuedEvents
  settled : ∀ i, (l.st.queuedEvents i).id ≠ l.st.highestId + 1
  covered : ∀ m, f ≤ m → m ≤ l.st.highestId → ∃ d ∈ calls, d.id = m
  passed : ∀ d ∈ l.delivered, d.call.id ≤ l.st.highestId
  account : (l.delivered.map (·.call) : Multiset Call) + waiting l.st = calls
  prompt : Prompt f calls ↔ Clean l.st

section Account

variable {calls : List Call} {l : Log} {c : Call}
  (account : (l.delivered.map (·.call) : Multiset Call) + waiting l.st = calls)

include account

theorem mem_of_waiting (mem : c ∈ waiting l.st) : c ∈ calls := by
  rw [← Multiset.mem_coe, ← account]
  exact Multiset.mem_add.mpr (.inr mem)

theorem delivered_or_waiting (mem : c ∈ calls) :
    c ∈ l.delivered.map (·.call) ∨ c ∈ waiting l.st := by
  rw [← Multiset.mem_coe, ← account, Multiset.mem_add, Multiset.mem_coe] at mem
  exact mem

theorem account_submit {spurious : Call → Nat}
    (moved : ((processEvent (spurious c) l.st c).2.map (·.call) : Multiset Call) +
      waiting (processEvent (spurious c) l.st c).1 = waiting l.st + {c}) :
    ((submit spurious l c).delivered.map (·.call) : Multiset Call) +
      waiting (submit spurious l c).st = ((calls ++ [c] : List Call) : Multiset Call) := by
  rw [delivered_submit, st_submit, List.map_append, ← Multiset.coe_add, add_assoc, moved,
    ← add_assoc, account, ← Multiset.coe_add, Multiset.coe_singleton]

end Account

section Submit

variable {f : Nat} {calls : List Call} {l : Log} {c : Call} {spurious : Call → Nat}

theorem Backlog.flush (ge : f ≤ c.id) (lt : ∀ d ∈ calls ++ [c], d.id < unregistered)
    (used : ∀ i, (l.st.queuedEvents i).id ≠ 0 → i.val < l.st.queuedEventCount)
    (room : l.st.queuedEventCount ≤ maxQueuedEvents)
    (covered : ∀ m, f ≤ m → m < c.id → ∃ d ∈ calls, d.id = m)
    (passed : ∀ d ∈ l.delivered, d.call.id ≤ c.id)
    (account : (l.delivered.map (·.call) : Multiset Call) + waiting l.st = calls)
    (prompt : Prompt f (calls ++ [c]) ↔ Clean (l.st.setHighest c.id))
    (result : processEvent (spurious c) l.st c =
      ((tryFlushEvents (l.st.setHighest c.id)).1,
        ⟨c, .fastPath⟩ :: (tryFlushEvents (l.st.setHighest c.id)).2)) :
    Backlog f (calls ++ [c]) (submit spurious l c) := by
  have drains := tryFlushEvents_drains (l.st.setHighest c.id)
  have rest : Resting (tryFlushEvents (l.st.setHighest c.id)).1 :=
    resting_tryFlushEvents used room
  generalize (tryFlushEvents (l.st.setHighest c.id)).1 = t at *
  generalize (tryFlushEvents (l.st.setHighest c.id)).2 = out at *
  have st : (submit spurious l c).st = t := by rw [st_submit, result]
  have delivered : (submit spurious l c).delivered = l.delivered ++ ⟨c, .fastPath⟩ :: out := by
    rw [delivered_submit, result]
  have le : c.id ≤ t.highestId := drains.le
  have waited : (out.map (·.call) : Multiset Call) + waiting t = waiting l.st := drains.account
  -- a flushed event was waiting, so it is one of the calls
  have flushed (k : Nat) (above : c.id < k) (below : k ≤ t.highestId) : ∃ d ∈ calls, d.id = k := by
    obtain ⟨d, hd, id⟩ := (mem_ids drains.ids).mpr ⟨above, below⟩
    refine ⟨d.call, mem_of_waiting account ?_, id⟩
    rw [← waited, Multiset.mem_add, Multiset.mem_coe]
    exact .inl (List.mem_map_of_mem hd)
  refine ⟨st ▸ ge.trans le, ?_, st ▸ rest.used, st ▸ rest.room, st ▸ rest.settled, ?_, ?_,
    account_submit account ?_, ?_⟩
  · rw [st]
    by_cases same : t.highestId = c.id
    · exact same ▸ lt c (by simp)
    · obtain ⟨d, hd, id⟩ := flushed t.highestId (by omega) le_rfl
      exact id ▸ lt d (List.mem_append_left _ hd)
  · intro m from_f upto
    rw [st] at upto
    rcases Nat.lt_trichotomy m c.id with below | same | above
    · obtain ⟨d, hd, id⟩ := covered m from_f below
      exact ⟨d, List.mem_append_left _ hd, id⟩
    · exact ⟨c, by simp, same.symm⟩
    · obtain ⟨d, hd, id⟩ := flushed m above upto
      exact ⟨d, List.mem_append_left _ hd, id⟩
  · intro d hd
    rw [delivered] at hd
    rw [st]
    rcases List.mem_append.mp hd with hd | hd
    · exact (passed d hd).trans le
    · rcases List.mem_cons.mp hd with rfl | hd
      · exact le
      · exact ((mem_ids drains.ids).mp ⟨d, hd, rfl⟩).2
  · rw [result]
    simp only [List.map_cons, ← waited]
    rw [← Multiset.cons_coe, Multiset.cons_add, ← Multiset.singleton_add, add_comm]
  · rw [prompt, st, drains.clean_iff]

theorem Backlog.registered (h : Backlog f calls l) : l.st.highestId ≠ unregistered := h.lt.ne

theorem Backlog.resting (h : Backlog f calls l) : Resting l.st := ⟨h.used, h.room, h.settled⟩

theorem Backlog.missing (h : Backlog f calls l) : ∀ d ∈ calls, d.id ≠ l.st.highestId + 1 := by
  intro d hd next
  rcases delivered_or_waiting h.account hd with done | waits
  · obtain ⟨e, he, rfl⟩ := List.mem_map.mp done
    have := h.passed e he
    omega
  · obtain ⟨i, -, rfl⟩ := mem_waiting.mp waits
    exact h.settled i next

theorem Backlog.submit_lower (h : Backlog f calls l) (le : c.id ≤ l.st.highestId) :
    Backlog f (calls ++ [c]) (submit spurious l c) := by
  obtain ⟨b, eq, -⟩ := processEvent_lower (spurious c) h.registered le
  have st : (submit spurious l c).st = l.st := by rw [st_submit, eq]
  refine ⟨st ▸ h.ge, st ▸ h.lt, st ▸ h.used, st ▸ h.room, st ▸ h.settled, ?_, ?_,
    account_submit h.account ?_, ?_⟩
  · intro m from_f upto
    obtain ⟨d, hd, id⟩ := h.covered m from_f (st ▸ upto)
    exact ⟨d, List.mem_append_left _ hd, id⟩
  · intro d hd
    rw [delivered_submit, eq] at hd
    rw [st]
    rcases List.mem_append.mp hd with hd | hd
    · exact h.passed d hd
    · rw [List.mem_singleton.mp hd]
      exact le
  · rw [eq, add_comm]
    rfl
  · rw [st, prompt_concat, h.prompt, and_iff_left]
    exact fun _ m from_f below => h.covered m from_f (by omega)

theorem Backlog.submit_next (h : Backlog f calls l) (lt : ∀ d ∈ calls ++ [c], d.id < unregistered)
    (next : c.id = l.st.highestId + 1) : Backlog f (calls ++ [c]) (submit spurious l c) := by
  have ge := h.ge
  refine Backlog.flush (by omega) lt h.used h.room (fun m from_f below => ?_) (fun d hd => ?_)
    h.account ?_ ?_
  · exact h.covered m from_f (by omega)
  · exact (h.passed d hd).trans (by omega)
  · rw [next, clean_setHighest_iff h.settled, prompt_concat, h.prompt, and_iff_left]
    rintro ⟨d, hd, same⟩
    exact absurd (same.trans next) (h.missing d hd)
  · rw [processEvent_registered _ h.registered (by omega), dispatch_next next]

theorem Backlog.copies_eq_zero_iff (h : Backlog f calls l) {k : Nat} (later : l.st.highestId < k) :
    copies k l.st = 0 ↔ ¬ ∃ d ∈ calls, d.id = k := by
  rw [Sequencer.copies_eq_zero_iff]
  constructor
  · rintro none ⟨d, hd, rfl⟩
    rcases delivered_or_waiting h.account hd with done | waits
    · obtain ⟨e, he, rfl⟩ := List.mem_map.mp done
      have := h.passed e he
      omega
    · exact none d waits rfl
  · exact fun none d waits id => none ⟨d, mem_of_waiting h.account waits, id⟩

theorem clean_add_iff {s t : State} (highest : t.highestId = s.highestId)
    (one : waiting t = waiting s + {c}) (later : s.highestId < c.id) :
    Clean t ↔ Clean s ∧ copies c.id s = 0 := by
  -- One more call waits, and may be the second with its id.
  have copies_eq (k : Nat) : copies k t = copies k s + if c.id = k then 1 else 0 := by
    unfold copies
    rw [one, add_comm, Multiset.singleton_add, Multiset.countP_cons]
  constructor
  · intro clean
    have own := (clean c.id).2 (by omega)
    rw [copies_eq, if_pos rfl] at own
    refine ⟨fun k => ?_, by omega⟩
    have here := clean k
    rw [copies_eq, highest] at here
    split at here
    · omega
    · exact here
  · rintro ⟨clean, none⟩ k
    have here := clean k
    rw [copies_eq, highest]
    split
    case isTrue same =>
      subst same
      omega
    case isFalse => exact here

theorem Backlog.submit_queue (h : Backlog f calls l) (early : l.st.highestId + 1 < c.id)
    (room : l.st.queuedEventCount < maxQueuedEvents) :
    Backlog f (calls ++ [c]) (submit spurious l c) := by
  obtain ⟨queued, silent⟩ := processEvent_queue (spurious c) h.registered early room
  rw [← st_submit] at queued
  have rest := queued.resting h.resting early
  have one := queued.waiting h.resting (by omega)
  have highest := queued.highest
  have delivered : (submit spurious l c).delivered = l.delivered := by
    rw [delivered_submit, silent, List.append_nil]
  have ge := h.ge
  refine ⟨highest ▸ h.ge, highest ▸ h.lt, rest.used, rest.room, rest.settled, ?_, ?_,
    account_submit h.account ?_, ?_⟩
  · intro m from_f upto
    obtain ⟨d, hd, id⟩ := h.covered m from_f (highest ▸ upto)
    exact ⟨d, List.mem_append_left _ hd, id⟩
  · rw [delivered, highest]
    exact h.passed
  · rw [st_submit] at one
    rw [one, silent, List.map_nil, Multiset.coe_nil, zero_add]
  · rw [clean_add_iff highest one (by omega), h.copies_eq_zero_iff (by omega), ← h.prompt,
      prompt_concat]
    refine and_congr_right fun _ => ⟨fun all again => ?_, fun none again => absurd again none⟩
    -- What is next has not come, so a repeated later id is not prompt.
    obtain ⟨d, hd, next⟩ := all again (l.st.highestId + 1) (by omega) early
    exact h.missing d hd next

theorem Backlog.submit (h : Backlog f calls l) (lt : ∀ d ∈ calls ++ [c], d.id < unregistered)
    (room : l.st.queuedEventCount ≠ maxQueuedEvents) :
    Backlog f (calls ++ [c]) (submit spurious l c) := by
  rcases Nat.lt_trichotomy c.id (l.st.highestId + 1) with le | next | early
  · exact h.submit_lower (by omega)
  · exact h.submit_next lt next
  · exact h.submit_queue early (lt_of_le_of_ne h.room room)

end Submit

variable (spurious : Call → Nat) (memory : Slot → QueuedEvent)

theorem backlog_first {c : Call} (pos : c.id ≠ 0) (lt : c.id < unregistered) :
    Backlog c.id [c] (run spurious memory [c]) := by
  have none : waiting (State.initial memory) = 0 := waiting_eq_zero_iff.mpr fun _ => rfl
  let start : Log := ⟨.initial memory, []⟩
  have bounded : ∀ d ∈ [] ++ [c], d.id < unregistered := by simpa using lt
  refine Backlog.flush (l := start) le_rfl bounded (fun i busy => absurd rfl busy)
    (Nat.zero_le _) (fun m _ _ => by omega) (fun d hd => absurd hd List.not_mem_nil) ?_ ?_
    (processEvent_first _ rfl lt pos)
  · rw [none]
    rfl
  · refine iff_of_true (fun before d after split => ?_) fun k => ?_
    · obtain ⟨rfl, -⟩ : before = [] ∧ _ := by simpa [List.cons_eq_append_iff] using split
      rintro ⟨e, he, -⟩
      exact absurd he List.not_mem_nil
    · have zero : copies k ((State.initial memory).setHighest c.id) = 0 := by
        unfold copies
        rw [waiting_setHighest, none, Multiset.countP_zero]
      exact ⟨fun _ => zero, fun _ => zero.le.trans (Nat.zero_le 1)⟩

theorem run_backlog {calls : List Call} {first : Call} (pos : ∀ c ∈ calls, c.id ≠ 0)
    (bounded : ∀ c ∈ calls, c.id < unregistered) (head : calls.head? = some first)
    (room : ∀ k < calls.length,
      (run spurious memory (calls.take k)).st.queuedEventCount ≠ maxQueuedEvents) :
    Backlog first.id calls (run spurious memory calls) := by
  induction calls using List.reverseRecOn with
  | nil => nomatch head
  | append_singleton calls c ih =>
    rw [run_append]
    by_cases start : calls = []
    · subst start
      obtain rfl : c = first := Option.some.inj head
      exact backlog_first spurious memory (pos c (by simp)) (bounded c (by simp))
    · have before : calls.head? = some first := by
        rwa [List.head?_append_of_ne_nil _ start] at head
      have last := room calls.length (by simp)
      rw [List.take_left] at last
      refine Backlog.submit (ih (fun d hd => pos d (by simp [hd]))
        (fun d hd => bounded d (by simp [hd])) before fun k hk => ?_) bounded last
      have := room k (by simp; omega)
      rwa [List.take_append_of_le_length hk.le] at this

theorem Backlog.delivered_iff {f : Nat} {calls : List Call} {l : Log} (h : Backlog f calls l)
    (cover : ∀ c ∈ calls, ∀ m, f ≤ m → m ≤ c.id → ∃ d ∈ calls, d.id = m) :
    ((l.delivered.map (·.call)).Perm calls ∧ ∀ i, (l.st.queuedEvents i).id = 0) ↔
      Prompt f calls := by
  -- Once no id is missing, all has been handed over if and only if it came promptly.
  have ge := h.ge
  have done : ∀ c ∈ waiting l.st, c.id ≤ l.st.highestId := by
    intro c mem
    by_contra later
    obtain ⟨d, hd, next⟩ := cover c (mem_of_waiting h.account mem) (l.st.highestId + 1) (by omega)
      (by omega)
    exact h.missing d hd next
  have clean : Clean l.st ↔ waiting l.st = 0 := by
    constructor
    · intro clean
      refine Multiset.eq_zero_iff_forall_notMem.mpr fun c mem => ?_
      exact Sequencer.copies_eq_zero_iff.mp ((clean c.id).1 (done c mem)) c mem rfl
    · intro none k
      have zero : copies k l.st = 0 := by
        unfold copies
        rw [none, Multiset.countP_zero]
      omega
  rw [← waiting_eq_zero_iff, h.prompt, clean, and_iff_right_iff_imp]
  intro none
  rw [← Multiset.coe_eq_coe, ← h.account, none, add_zero]

/-- Repeated ids are all handed over just when none of them has to wait twice. -/
theorem repeats_delivered_iff (calls : List Call) (first : Call)
    (nonzero : ∀ c ∈ calls, c.id ≠ 0) (bounded : ∀ c ∈ calls, c.id < unregistered)
    (room : ∀ k < calls.length,
      (run spurious memory (calls.take k)).st.queuedEventCount ≠ maxQueuedEvents)
    (head : calls.head? = some first)
    (cover : ∀ c ∈ calls, ∀ m, first.id ≤ m → m ≤ c.id → ∃ d ∈ calls, d.id = m) :
    let l := run spurious memory calls
    ((l.delivered.map (·.call)).Perm calls ∧ ∀ i, (l.st.queuedEvents i).id = 0) ↔
      Prompt first.id calls :=
  (run_backlog spurious memory nonzero bounded head room).delivered_iff cover

theorem repeats_delivered_prompt :
    let calls := [5, 7, 6, 6, 5, 7].map Call.bare
    let l := run (fun _ => 0) (fun _ => .zeroed) calls
    ((l.delivered.map (·.call)).Perm calls ∧ ∀ i, (l.st.queuedEvents i).id = 0) ↔
      Prompt 5 calls := by
  refine repeats_delivered_iff (fun _ => 0) (fun _ => .zeroed) ([5, 7, 6, 6, 5, 7].map .bare)
    (.bare 5) (by decide) (by decide) (by decide +kernel) rfl fun c mem m ge le => ?_
  simp only [List.map_cons, List.map_nil, List.mem_cons, List.not_mem_nil, or_false] at mem
  have id : c.id = 5 ∨ c.id = 6 ∨ c.id = 7 := by
    rcases mem with rfl | rfl | rfl | rfl | rfl | rfl <;> simp [Call.bare]
  have ge : 5 ≤ m := ge
  have : m = 5 ∨ m = 6 ∨ m = 7 := by omega
  rcases this with rfl | rfl | rfl <;> simp [Call.bare]

/-- The second 3 comes while the first still waits for 2, and is never handed over. -/
theorem repeats_stuck :
    let calls := [1, 3, 3, 2].map Call.bare
    let l := run (fun _ => 0) (fun _ => .zeroed) calls
    (∀ k < calls.length, (run (fun _ => 0) (fun _ => .zeroed)
      (calls.take k)).st.queuedEventCount ≠ maxQueuedEvents) ∧
      l.delivered.map (·.call.id) = [1, 2, 3] ∧ (∃ i, (l.st.queuedEvents i).id = 3) ∧
      ¬ ((l.delivered.map (·.call)).Perm calls ∧ ∀ i, (l.st.queuedEvents i).id = 0) := by
  have stuck : ((run (fun _ => 0) (fun _ => .zeroed)
      ([1, 3, 3, 2].map Call.bare)).st.queuedEvents ⟨1, by decide⟩).id = 3 := by decide +kernel
  exact ⟨by decide +kernel, by decide +kernel, ⟨_, stuck⟩,
    fun all => absurd (stuck.symm.trans (all.2 _)) (by decide)⟩

end ArcdpsHealing.Sequencer
