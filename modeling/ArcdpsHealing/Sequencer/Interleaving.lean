import ArcdpsHealing.Sequencer.Phases

/-! What holds between any two steps, and that every step keeps it. -/

namespace ArcdpsHealing.Sequencer

open Lib

structure Locks (w : World) : Prop where
  shares : ∀ k, w.lock.Shares k ↔ (w.pc k).role.shares
  owns : ∀ k, w.lock.Owns k ↔ (w.pc k).role.owns

structure Ids (ls : List Label) (w : World) : Prop where
  range : ∀ k, w.pc k ≠ .idle → 0 < k ∧ k < unregistered
  fresh : w.st.highestId = unregistered →
    bases ls = [] ∧ called ls = [] ∧ ∀ k, (w.pc k).role.early
  base : w.st.highestId ≠ unregistered →
    w.st.highestId < unregistered ∧ ∃ b, b ≤ w.st.highestId ∧ bases ls = [b]
  sound : ∀ k, (w.pc k).role.sound
  delivered : ∀ b ∈ bases ls, ∀ k, b < k → k ≤ w.st.highestId → k ∈ returned ls

structure Place (ls : List Label) (w : World) : Prop where
  direct : ∀ k b, (w.pc k).role.direct → b ∈ bases ls → k ≤ b
  engaged : ∀ k b, (w.pc k).role.engaged → b ∈ bases ls → b < k
  fast : ∀ k, (w.pc k).role.fast → w.st.highestId + 1 = k
  current : ∀ k c, (w.pc k).role.current = some c →
    c ≤ w.st.highestId ∧ ∀ b ∈ bases ls, b ≤ c
  behind : ∀ k c, (w.pc k).role.behind = some c → c + 1 < k

structure Custody (ls : List Label) (w : World) : Prop where
  mine : ∀ k, 0 < k → (w.pc k).role.phase = .mine → k ∉ called ls ∧ ¬ w.st.Holds k
  delivering : ∀ k, (w.pc k).role.phase = .delivering → k ∈ called ls ∧ ¬ w.st.Holds k
  delivered : ∀ k, (w.pc k).role.phase = .delivered → k ∈ returned ls ∧ ¬ w.st.Holds k
  parked : ∀ k, (w.pc k).role.phase = .parked →
    (k ∈ returned ls ∧ ¬ w.st.Holds k) ∨ w.st.Holds k

structure Slots (args : Nat → Call) (ls : List Label) (w : World) : Prop where
  queued : ∀ i, (w.st.queuedEvents i).id ≠ 0 →
    (w.pc (w.st.queuedEvents i).id).role.phase = .parked
  load : ∀ i, (w.st.queuedEvents i).id ≠ 0 →
    (w.st.queuedEvents i).load = args (w.st.queuedEvents i).id
  inj : ∀ i j, (w.st.queuedEvents i).id ≠ 0 →
    (w.st.queuedEvents i).id = (w.st.queuedEvents j).id → i = j
  started : ∀ k ∈ returned ls, k ∈ called ls
  once : ∀ i, (w.st.queuedEvents i).id ≠ 0 → (w.st.queuedEvents i).id ∈ called ls →
    ∃ k, (w.pc k).role.underway = some i
  underway : ∀ k i, (w.pc k).role.underway = some i → (w.st.queuedEvents i).id ∈ called ls
  finished : ∀ k n i z, w.pc k = .advanceDelayed n i z →
    (w.st.queuedEvents i).id ∈ returned ls

structure Queue (w : World) : Prop where
  bound : w.st.queuedEventCount ≤ maxQueuedEvents
  used : ∀ i, (w.st.queuedEvents i).id ≠ 0 → i < w.st.queuedEventCount
  reserved : ∀ k i, (w.pc k).role.index = some i →
    i < w.st.queuedEventCount ∧ (w.st.queuedEvents i).id = 0
  apart : ∀ j k i, (w.pc j).role.index = some i → (w.pc k).role.index = some i → j = k

structure Scan (w : World) : Prop where
  eventCount : ∀ k n, (w.pc k).role.eventCount = some n →
    n.val = min w.st.queuedEventCount maxQueuedEvents
  delayed : ∀ k i, (w.pc k).role.delayed = some i →
    (w.st.queuedEvents i).id = w.st.highestId + 1
  scanned : ∀ k n j z, w.pc k = .scan n j false z →
    (z = 0 ↔ ∀ i : Slot, i < j → (w.st.queuedEvents i).id = 0)
  empty : ∀ k, w.pc k = .reset → ∀ i, (w.st.queuedEvents i).id = 0

structure Wake (w : World) : Prop where
  storing : ∀ k i, w.pc k = .store i → w.st.highestId + 1 = k →
    ∃ f, w.pc f = .probe ∨ w.pc f = .lockExclusive
  awake : ∀ i, (w.st.queuedEvents i).id = w.st.highestId + 1 → ∃ f, (w.pc f).Visits i
  pending : w.st.queuedEventCount ≠ 0 →
    (∃ i, (w.st.queuedEvents i).id ≠ 0) ∨ ∃ k, (w.pc k).role.engaged

structure Inv (args : Nat → Call) (ls : List Label) (w : World) : Prop where
  locks : Locks w
  ids : Ids ls w
  place : Place ls w
  custody : Custody ls w
  slots : Slots args ls w
  queue : Queue w
  scan : Scan w
  wake : Wake w

variable {args : Nat → Call} {ls : List Label} {l : Label} {w w' : World}

section Consequences

variable (h : Inv args ls w) {j k : Nat}
include h

theorem slot_lt (i : Slot) : (w.st.queuedEvents i).id < unregistered := by
  have := h.slots.queued i
  have := h.ids.range (w.st.queuedEvents i).id
  grind [Pc.role, unregistered]

theorem pos_of_phase (phase : (w.pc k).role.phase ≠ .mine) : 0 < k := by
  refine (h.ids.range k fun idle => ?_).1
  rw [idle] at phase
  exact phase rfl

theorem alone (owns : (w.pc j).role.owns) : ¬ (w.pc k).role.shares := by
  rw [← h.locks.shares]
  exact ((h.locks.owns j).mpr owns).not_shares

theorem owner_eq (hj : (w.pc j).role.owns) (hk : (w.pc k).role.owns) : j = k :=
  ((h.locks.owns j).mpr hj).eq ((h.locks.owns k).mpr hk)

theorem ahead (mine : (w.pc k).role.phase = .mine) (engaged : (w.pc k).role.engaged) :
    w.st.highestId < k := by
  have known : w.st.highestId ≠ unregistered := by
    intro unset
    exact (Pc.of_early ((h.ids.fresh unset).2.2 k)).2.2.1 engaged
  obtain ⟨lt, b, le, bases⟩ := h.ids.base known
  have mem : b ∈ Sequencer.bases ls := by
    rw [bases]
    exact List.mem_singleton_self b
  have after := h.place.engaged k b engaged mem
  by_contra past
  have := h.slots.started k (h.ids.delivered b mem k after (by omega))
  exact (h.custody.mine k (by omega) mine).1 this

end Consequences

section Goto

variable {k : Nat} {p : Pc} {i : Slot}

theorem exists_goto {P : Pc → Prop} (h : ∃ f, P (w.pc f)) (keep : P (w.pc k) → P p) :
    ∃ f, P ((w.goto k p).pc f) := by
  obtain ⟨f, hf⟩ := h
  refine ⟨f, ?_⟩
  rw [World.pc_goto]
  split
  · rename_i same
    exact keep (same ▸ hf)
  · exact hf

theorem underway_goto (h : ∃ f, (w.pc f).role.underway = some i)
    (keep : (w.pc k).role.underway = some i → p.role.underway = some i) :
    ∃ f, ((w.goto k p).pc f).role.underway = some i :=
  exists_goto (P := fun p => p.role.underway = some i) h keep

theorem visits_goto (h : ∃ f, (w.pc f).Visits i) (keep : (w.pc k).Visits i → p.Visits i) :
    ∃ f, ((w.goto k p).pc f).Visits i :=
  exists_goto (P := fun p => p.Visits i) h keep

theorem engaged_goto (h : ∃ f, (w.pc f).role.engaged)
    (keep : (w.pc k).role.engaged → p.role.engaged) : ∃ f, ((w.goto k p).pc f).role.engaged :=
  exists_goto (P := fun p => p.role.engaged) h keep

theorem flushing_goto (h : ∃ f, w.pc f = .probe ∨ w.pc f = .lockExclusive)
    (keep : (w.pc k = .probe ∨ w.pc k = .lockExclusive) → p = .probe ∨ p = .lockExclusive) :
    ∃ f, (w.goto k p).pc f = .probe ∨ (w.goto k p).pc f = .lockExclusive :=
  exists_goto (P := fun p => p = .probe ∨ p = .lockExclusive) h keep

end Goto

section Step

variable (hargs : ∀ k, (args k).id = k) (h : Inv args ls w) (step : Step args w l w')
  (fits : ∀ index, l = .fetch index → index < maxQueuedEvents)

include h step in
theorem locks_step : Locks w' where
  shares := by
    intro k
    have shares := h.locks.shares
    cases step with
    | load | retry =>
      have range := h.ids.range
      grind [Pc.role, route_cases]
    | inspect => grind [Pc.role, inspect]
    | scanEnd => grind [Pc.role, scanEnd]
    | returning => grind [Pc.role, afterCallback, cases Branch]
    | lockShared => grind [Pc.role, SharedMutex.shares_of_lockShared]
    | lockExclusive => grind [Pc.role, SharedMutex.not_shares_of_lock]
    | unlock =>
      have owns := h.locks.owns
      grind [Pc.role, SharedMutex.Owns.unlock, SharedMutex.Owns.not_shares]
    | _ => grind [Pc.role]
  owns := by
    intro k
    have owns := h.locks.owns
    cases step with
    | load | retry =>
      have range := h.ids.range
      grind [Pc.role, route_cases]
    | inspect => grind [Pc.role, inspect]
    | scanEnd => grind [Pc.role, scanEnd]
    | returning => grind [Pc.role, afterCallback, cases Branch]
    | lockShared => grind [Pc.role, SharedMutex.owns_of_lockShared]
    | lockExclusive => grind [Pc.role, SharedMutex.owns_of_lock, SharedMutex.not_owns_of_lock]
    | @unlock k =>
      have owner : w.lock.Owns k := (owns k).mpr (by grind [Pc.role])
      have := fun u => (owner.unlock (u := u)).2
      grind [Pc.role, SharedMutex.Owns.eq]
    | advanceDelayedFails =>
      have := h.scan.delayed
      grind [Pc.role]
    | resetFails =>
      have := h.scan.empty
      grind
    | _ => grind [Pc.role]

include h step fits in
theorem ids_step : Ids (ls ++ [l]) w' where
  range := by
    intro k
    have range := h.ids.range
    cases step <;> grind
  fresh := by
    rw [bases_snoc, called_snoc]
    have range := h.ids.range
    have fresh := h.ids.fresh
    have lt := slot_lt h
    cases step with
    | load | retry => grind [Pc.role, route_cases, Label.base, Label.called]
    | inspect => grind [Pc.role, inspect, Label.base, Label.called]
    | scanEnd => grind [Pc.role, scanEnd, Label.base, Label.called]
    | returning => grind [Pc.role, afterCallback, cases Branch, Label.base, Label.called]
    | advanceDelayed => grind
    | _ => grind [Pc.role, Label.base, Label.called]
  base := by
    rw [bases_snoc]
    have range := h.ids.range
    have fresh := h.ids.fresh
    have base := h.ids.base
    have lt := slot_lt h
    cases step with
    | @registerFirst k _ unset =>
      intro _
      refine ⟨by grind, k - 1, le_rfl, ?_⟩
      rw [(fresh unset).1]
      rfl
    | advance | advanceDelayed => grind [Label.base]
    | _ => simpa [Label.base] using base
  sound := by
    have range := h.ids.range
    have sound := h.ids.sound
    intro k
    cases step with
    | load | retry => grind [Pc.role, route_cases]
    | inspect => grind [Pc.role, inspect]
    | scanEnd => grind [Pc.role, scanEnd]
    | returning => grind [Pc.role, afterCallback, cases Branch]
    | advanceFails =>
      have := h.place.fast
      grind [Pc.role]
    | advanceDelayedFails =>
      have := h.scan.delayed
      grind [Pc.role]
    | resetFails =>
      have := h.scan.empty
      grind
    | _ => grind [Pc.role]
  delivered := by
    rw [bases_snoc, returned_snoc]
    have fresh := h.ids.fresh
    have delivered := h.ids.delivered
    cases step with
    | registerFirst => grind [Label.base, Label.returned]
    | advance =>
      have := h.custody.delivered
      have := h.place.fast
      grind [Pc.role, Label.base, Label.returned]
    | advanceDelayed =>
      have := h.slots.finished
      have := h.scan.delayed
      grind [Pc.role, Label.base, Label.returned]
    | _ => grind [Label.base, Label.returned]

include h step in
theorem place_step : Place (ls ++ [l]) w' where
  direct := by
    intro k b
    rw [bases_snoc]
    have direct := h.place.direct
    cases step with
    | @load j =>
      have := route_cases (h.ids.range j (by grind)).1
      have delivered := h.ids.delivered
      have started := h.slots.started
      have mine := h.custody.mine
      have fresh := h.ids.fresh
      grind [Pc.role, Label.base]
    | @retry j c =>
      have := route_cases (h.ids.range j (by grind)).1 c
      have := ahead h (k := j)
      have := h.place.current j c
      grind [Pc.role, Label.base]
    | registerFirst _ unset =>
      have := fun k => Pc.of_early ((h.ids.fresh unset).2.2 k)
      grind [Pc.role]
    | inspect => grind [Pc.role, inspect, Label.base]
    | scanEnd => grind [Pc.role, scanEnd, Label.base]
    | returning => grind [Pc.role, afterCallback, cases Branch, Label.base]
    | _ => grind [Pc.role, Label.base]
  engaged := by
    intro k b
    rw [bases_snoc]
    have engaged := h.place.engaged
    cases step with
    | @load j =>
      have := route_cases (h.ids.range j (by grind)).1
      have base := h.ids.base
      grind [Pc.role, Label.base]
    | @retry j c =>
      have := route_cases (h.ids.range j (by grind)).1 c
      grind [Pc.role, Label.base]
    | registerFirst _ unset =>
      have := fun k => Pc.of_early ((h.ids.fresh unset).2.2 k)
      grind [Pc.role]
    | inspect => grind [Pc.role, inspect, Label.base]
    | scanEnd => grind [Pc.role, scanEnd, Label.base]
    | returning => grind [Pc.role, afterCallback, cases Branch, Label.base]
    | _ => grind [Pc.role, Label.base]
  fast := by
    intro k
    have fast := h.place.fast
    cases step with
    | @load j =>
      have := route_cases (h.ids.range j (by grind)).1
      grind [Pc.role]
    | @retry j c =>
      have := route_cases (h.ids.range j (by grind)).1 c
      have := ahead h (k := j)
      have := h.place.current j c
      grind [Pc.role]
    | registerFirst _ unset =>
      have := fun k => Pc.of_early ((h.ids.fresh unset).2.2 k)
      grind [Pc.role]
    | inspect => grind [Pc.role, inspect]
    | scanEnd => grind [Pc.role, scanEnd]
    | returning => grind [Pc.role, afterCallback, cases Branch]
    | @advanceDelayed j n i z =>
      have := h.scan.delayed j i
      have := h.slots.queued i
      have := Pc.of_fast (p := w.pc k)
      grind [Pc.role]
    | _ => grind [Pc.role]
  current := by
    intro k
    have current := h.place.current
    rw [bases_snoc]
    cases step with
    | @load j =>
      have := route_cases (h.ids.range j (by grind)).1
      have base := h.ids.base
      grind [Pc.role, Label.base]
    | @retry j c =>
      have := route_cases (h.ids.range j (by grind)).1 c
      grind [Pc.role, Label.base]
    | registerFirst _ unset =>
      have := fun k => Pc.of_early ((h.ids.fresh unset).2.2 k)
      grind [Pc.role]
    | recheck | race1 | confirm | race2 =>
      have base := h.ids.base
      have fresh := h.ids.fresh
      grind [Pc.role, Label.base]
    | inspect => grind [Pc.role, inspect, Label.base]
    | scanEnd => grind [Pc.role, scanEnd, Label.base]
    | returning => grind [Pc.role, afterCallback, cases Branch, Label.base]
    | _ => grind [Pc.role, Label.base]
  behind := by
    intro k
    have behind := h.place.behind
    cases step with
    | @load j =>
      have := route_cases (h.ids.range j (by grind)).1
      grind [Pc.role]
    | @retry j c =>
      have := route_cases (h.ids.range j (by grind)).1 c
      grind [Pc.role]
    | inspect => grind [Pc.role, inspect]
    | scanEnd => grind [Pc.role, scanEnd]
    | returning => grind [Pc.role, afterCallback, cases Branch]
    | _ => grind [Pc.role]

include h step hargs in
theorem custody_step : Custody (ls ++ [l]) w' where
  mine := by
    intro k pos
    rw [called_snoc]
    have mine := h.custody.mine
    cases step with
    | @load j | @retry j => grind [Pc.role, Label.called]
    | inspect => grind [Pc.role, phase_inspect, Label.called]
    | scanEnd => grind [Pc.role, phase_scanEnd, Label.called]
    | returning => grind [Pc.role, afterCallback, cases Branch, Label.called]
    | @invokeDelayed j n i z =>
      have := h.scan.delayed j i
      have := h.slots.queued i
      grind [Pc.role, Label.called]
    | @discard j c i =>
      have := h.queue.reserved j i
      grind [Pc.role, State.holds_discard, Label.called]
    | @store j i =>
      have := h.queue.reserved j i
      grind [Pc.role, State.holds_store, Label.called]
    | @advanceDelayed j n i z =>
      have := h.scan.delayed j i
      have := h.slots.inj i
      grind [Pc.role, State.holds_clear, Label.called]
    | _ => grind [Pc.role, Label.called]
  delivering := by
    intro k
    rw [called_snoc]
    have delivering := h.custody.delivering
    have pos := pos_of_phase h (k := k)
    cases step with
    | @load j | @retry j =>
      have range := h.ids.range j
      grind [Pc.role, phase_route, Label.called]
    | inspect => grind [Pc.role, phase_inspect, Label.called]
    | scanEnd => grind [Pc.role, phase_scanEnd, Label.called]
    | returning => grind [Pc.role, afterCallback, cases Branch, Label.called]
    | @invoke j =>
      have range := h.ids.range j
      have mine := h.custody.mine j
      grind [Pc.role, Label.called]
    | @discard j c i =>
      have := h.queue.reserved j i
      grind [Pc.role, State.holds_discard, Label.called]
    | @store j i =>
      have := h.queue.reserved j i
      grind [Pc.role, State.holds_store, Label.called]
    | @advanceDelayed j n i z =>
      have := h.scan.delayed j i
      have := h.slots.inj i
      grind [Pc.role, State.holds_clear, Label.called]
    | _ => grind [Pc.role, Label.called]
  delivered := by
    intro k
    rw [returned_snoc]
    have delivered := h.custody.delivered
    have pos := pos_of_phase h (k := k)
    cases step with
    | @load j | @retry j =>
      have range := h.ids.range j
      grind [Pc.role, phase_route, Label.returned]
    | inspect => grind [Pc.role, phase_inspect, Label.returned]
    | scanEnd => grind [Pc.role, phase_scanEnd, Label.returned]
    | @returning j =>
      have delivering := h.custody.delivering j
      grind [Pc.role, afterCallback, cases Branch, Label.returned]
    | @discard j c i =>
      have := h.queue.reserved j i
      grind [Pc.role, State.holds_discard, Label.returned]
    | @store j i =>
      have := h.queue.reserved j i
      grind [Pc.role, State.holds_store, Label.returned]
    | @advanceDelayed j n i z =>
      have := h.scan.delayed j i
      have := h.slots.inj i
      grind [Pc.role, State.holds_clear, Label.returned]
    | _ => grind [Pc.role, Label.returned]
  parked := by
    intro k
    rw [returned_snoc]
    have parked := h.custody.parked
    have pos := pos_of_phase h (k := k)
    cases step with
    | @load j | @retry j =>
      have range := h.ids.range j
      grind [Pc.role, phase_route, Label.returned]
    | inspect => grind [Pc.role, phase_inspect, Label.returned]
    | scanEnd => grind [Pc.role, phase_scanEnd, Label.returned]
    | @returning j =>
      have delivering := h.custody.delivering j
      grind [Pc.role, afterCallback, cases Branch, Label.returned]
    | @probeEmpty j | @unlock j =>
      have delivered := h.custody.delivered j
      grind [Pc.role, Label.returned]
    | @discard j c i =>
      have := h.queue.reserved j i
      grind [Pc.role, State.holds_discard, Label.returned]
    | @store j i =>
      have := h.queue.reserved j i
      have range := h.ids.range j
      grind [Pc.role, State.holds_store, Label.returned]
    | @advanceDelayed j n i z =>
      have := h.scan.delayed j i
      have := h.slots.inj i
      have := h.slots.finished j n i z
      grind [Pc.role, State.holds_clear, Label.returned]
    | @advanceFails j changed =>
      have := h.place.fast j
      grind [Pc.role]
    | @advanceDelayedFails j n i z changed =>
      have := h.scan.delayed j i
      grind [Pc.role]
    | @resetFails j changed =>
      have := h.scan.empty j
      grind
    | _ => grind [Pc.role, Label.returned]

include h step hargs in
theorem slots_step : Slots args (ls ++ [l]) w' where
  queued := by
    intro i
    have queued := h.slots.queued
    have range := h.ids.range
    cases step <;> grind [Pc.role]
  load := by
    intro i
    have load := h.slots.load
    cases step <;> grind
  inj := by
    intro i j
    have inj := h.slots.inj
    cases step with
    | @store k i =>
      have range := h.ids.range k
      have mine := h.custody.mine k
      have := w.st.holds_slot
      grind [Pc.role]
    | _ => grind
  started := by
    intro k
    rw [called_snoc, returned_snoc]
    have started := h.slots.started
    cases step with
    | @returning j =>
      have := h.custody.delivering j
      grind [Pc.role, Label.called, Label.returned]
    | @returningDelayed j n i z =>
      have := h.slots.underway j i
      grind [Pc.role, Label.called, Label.returned]
    | _ => grind [Label.called, Label.returned]
  once := by
    intro i
    rw [called_snoc]
    have once := h.slots.once i
    intro busy mem
    cases step with
    | @invoke j =>
      have mine := h.custody.mine j
      have := w.st.holds_slot i
      have range := h.ids.range j
      exact underway_goto (once (by grind) (by grind [Pc.role, Label.called])) (by grind [Pc.role])
    | @invokeDelayed j n i' z pc =>
      by_cases same : i = i'
      · exact ⟨j, by grind [Pc.role]⟩
      · have inj := h.slots.inj i i'
        exact underway_goto (once (by grind) (by grind [Label.called])) (by grind [Pc.role])
    | @discard j c i' =>
      have reserved := h.queue.reserved j i'
      refine underway_goto (once (by grind) (by grind [Label.called])) (by grind [Pc.role])
    | @store j i' =>
      have mine := h.custody.mine j
      have range := h.ids.range j
      have ne : i ≠ i' := by grind [Pc.role, Label.called]
      exact underway_goto (once (by grind) (by grind [Label.called])) (by grind [Pc.role])
    | @advanceDelayed j n i' z =>
      have ne : i ≠ i' := by grind
      exact underway_goto (once (by grind) (by grind [Label.called])) (by grind [Pc.role])
    | @advanceDelayedFails j n i' z =>
      have := h.scan.delayed j i'
      grind [Pc.role]
    | _ =>
      exact underway_goto (once busy (by simpa [Label.called] using mem)) (by grind [Pc.role])
  underway := by
    intro k i
    rw [called_snoc]
    have underway := h.slots.underway
    cases step with
    | load | retry => grind [Pc.role, route, Label.called]
    | inspect => grind [Pc.role, inspect, Label.called]
    | scanEnd => grind [Pc.role, scanEnd, Label.called]
    | returning => grind [Pc.role, afterCallback, cases Branch, Label.called]
    | @store j i' | @discard j c i' =>
      have := alone h (j := k) (k := j)
      grind [Pc.role, Pc.owns_of_delayed, Pc.delayed_of_underway]
    | @advanceDelayed j n i' z =>
      have := owner_eq h (j := k) (k := j)
      grind [Pc.role, Pc.owns_of_delayed, Pc.delayed_of_underway]
    | _ => grind [Pc.role, Label.called]
  finished := by
    intro k n i z
    rw [returned_snoc]
    have finished := h.slots.finished
    cases step with
    | load | retry => grind [Pc.role, route, Label.returned]
    | inspect => grind [Pc.role, inspect, Label.returned]
    | scanEnd => grind [Pc.role, scanEnd, Label.returned]
    | returning => grind [Pc.role, afterCallback, cases Branch, Label.returned]
    | @store j i' | @discard j c i' =>
      have := alone h (j := k) (k := j)
      grind [Pc.role]
    | @advanceDelayed j n i' z =>
      have := owner_eq h (j := k) (k := j)
      grind [Pc.role]
    | _ => grind [Pc.role, Label.returned]

include h step fits in
theorem queue_step : Queue w' where
  bound := by
    have bound := h.queue.bound
    cases step with
    | reserve _ room => grind [fetchAdd, maxQueuedEvents]
    | overflow => grind
    | _ => grind
  used := by
    intro i
    have used := h.queue.used i
    cases step with
    | reserve _ room => grind [fetchAdd, maxQueuedEvents]
    | overflow => grind
    | @store j i' =>
      have reserved := h.queue.reserved j i'
      grind [Pc.role]
    | _ => grind
  reserved := by
    intro k i
    have reserved := h.queue.reserved k i
    cases step with
    | load | retry => grind [Pc.role, route]
    | inspect => grind [Pc.role, inspect]
    | scanEnd => grind [Pc.role, scanEnd]
    | returning => grind [Pc.role, afterCallback, cases Branch]
    | @reserve j c _ room =>
      have used := h.queue.used ⟨w.st.queuedEventCount, room⟩
      grind [Pc.role, fetchAdd, maxQueuedEvents]
    | overflow => grind
    | @store j i' =>
      have apart := h.queue.apart j k
      grind [Pc.role]
    | @reset j =>
      have := alone h (j := j) (k := k)
      grind [Pc.role, Pc.shares_of_index]
    | _ => grind [Pc.role]
  apart := by
    intro j k i
    have apart := h.queue.apart j k i
    cases step with
    | load | retry => grind [Pc.role, route]
    | inspect => grind [Pc.role, inspect]
    | scanEnd => grind [Pc.role, scanEnd]
    | returning => grind [Pc.role, afterCallback, cases Branch]
    | @reserve k' c _ room =>
      have := h.queue.reserved j i
      have := h.queue.reserved k i
      grind [Pc.role]
    | _ => grind [Pc.role]

include h step fits in
theorem scan_step : Scan w' where
  eventCount := by
    intro k n
    have eventCount := h.scan.eventCount k n
    cases step with
    | load | retry => grind [Pc.role, route]
    | inspect => grind [Pc.role, inspect]
    | scanEnd => grind [Pc.role, scanEnd]
    | returning => grind [Pc.role, afterCallback, cases Branch]
    | @reserve j =>
      have := alone h (j := k) (k := j)
      grind [Pc.role, Pc.owns_of_eventCount]
    | overflow => grind
    | @reset j =>
      have := owner_eq h (j := j) (k := k)
      grind [Pc.role, Pc.owns_of_eventCount]
    | _ => grind [Pc.role]
  delayed := by
    intro k i
    have delayed := h.scan.delayed k i
    cases step with
    | load | retry => grind [Pc.role, route]
    | @registerFirst j _ unset =>
      have := Pc.of_early ((h.ids.fresh unset).2.2 k)
      grind [Pc.role]
    | inspect => grind [Pc.role, inspect]
    | scanEnd => grind [Pc.role, scanEnd]
    | returning => grind [Pc.role, afterCallback, cases Branch]
    | @advance j =>
      have := h.custody.delivered j
      have := w.st.holds_slot i
      grind [Pc.role]
    | @discard j _ i' | @store j i' =>
      have := alone h (j := k) (k := j)
      grind [Pc.role, Pc.owns_of_delayed]
    | @advanceDelayed j =>
      have := owner_eq h (j := j) (k := k)
      grind [Pc.role, Pc.owns_of_delayed]
    | _ => grind [Pc.role]
  scanned := by
    intro k n j z
    have scanned := h.scan.scanned k n j z
    cases step with
    | load | retry => grind [Pc.role, route]
    | @inspect j' n' i' r' z' _ more =>
      have old := h.scan.scanned j' n' i' z'
      have next : ∀ i : Slot, i.val < i' + 1 → i.val < i' ∨ i = ⟨i', by omega⟩ := by grind
      grind [inspect]
    | scanEnd => grind [Pc.role, scanEnd]
    | returning => grind [Pc.role, afterCallback, cases Branch]
    | @discard j _ i' | @store j i' =>
      have := alone h (j := k) (k := j)
      grind [Pc.role]
    | @advanceDelayed j =>
      have := owner_eq h (j := j) (k := k)
      grind [Pc.role]
    | _ => grind [Pc.role]
  empty := by
    intro k
    have empty := h.scan.empty k
    cases step with
    | load | retry => grind [Pc.role, route]
    | @inspect j' n' i' r' z' _ more => grind [inspect]
    | @scanEnd j' n' i' r' z' _ last =>
      have scanned := h.scan.scanned j' n' i' z'
      have eventCount := h.scan.eventCount j' n'
      have used := h.queue.used
      grind [scanEnd, Pc.role]
    | returning => grind [Pc.role, afterCallback, cases Branch]
    | @discard j _ i' | @store j i' =>
      have := alone h (j := k) (k := j)
      grind [Pc.role]
    | @advanceDelayed j =>
      have := owner_eq h (j := j) (k := k)
      grind [Pc.role]
    | _ => grind [Pc.role]

include h step in
theorem storing_step (k : Nat) (i : Slot) (pc : w'.pc k = .store i)
    (next : w'.st.highestId + 1 = k) : ∃ f, w'.pc f = .probe ∨ w'.pc f = .lockExclusive := by
  have storing := h.wake.storing k i
  cases step with
  | @registerFirst j _ unset =>
    have := Pc.of_early ((h.ids.fresh unset).2.2 k)
    grind [Pc.role]
  | @advance j => exact ⟨j, by grind⟩
  | @confirm j c i' =>
    have := h.place.behind j c
    have ne : k ≠ j := by grind [Pc.role]
    exact flushing_goto (storing (by grind) (by grind)) (by grind)
  | @probeEmpty j _ empty =>
    have := h.queue.reserved k i
    grind [Pc.role]
  | @lockExclusive j lock pc locked =>
    have := h.locks.shares k
    have := (SharedMutex.not_shares_of_lock (u := k) locked).1
    grind [Pc.role]
  | @advanceDelayed j =>
    have := alone h (j := j) (k := k)
    grind [Pc.role]
  | load | retry =>
    exact flushing_goto (storing (by grind [route]) (by grind)) (by grind)
  | returning =>
    exact flushing_goto (storing (by grind [afterCallback, cases Branch]) (by grind)) (by grind)
  | inspect =>
    exact flushing_goto (storing (by grind [inspect]) (by grind)) (by grind)
  | scanEnd =>
    exact flushing_goto (storing (by grind [scanEnd]) (by grind)) (by grind)
  | _ => exact flushing_goto (storing (by grind) (by grind)) (by grind)

include h step hargs in
theorem awake_step (i : Slot) (next : (w'.st.queuedEvents i).id = w'.st.highestId + 1) :
    ∃ f, (w'.pc f).Visits i := by
  have awake := h.wake.awake i
  cases step with
  | @registerFirst j _ unset =>
    have := h.slots.queued i
    have := Pc.of_early ((h.ids.fresh unset).2.2 (w.st.queuedEvents i).id)
    grind [Pc.role]
  | @advance j => exact ⟨j, by grind [Pc.Visits]⟩
  | @probeEmpty j _ empty =>
    have := h.queue.used i
    grind
  | @discard j c i' =>
    have := h.queue.reserved j i'
    exact visits_goto (awake (by grind)) (by grind [Pc.Visits, Pc.role])
  | @store j i' pc =>
    by_cases same : i = i'
    · obtain ⟨f, hf⟩ := h.wake.storing j i' pc (by grind)
      exact visits_goto ⟨f, by grind [Pc.Visits]⟩ (by grind [Pc.Visits, Pc.role])
    · exact visits_goto (awake (by grind)) (by grind [Pc.Visits, Pc.role])
  | @advanceDelayed j => exact ⟨j, by grind [Pc.Visits]⟩
  | @inspect j n i' r z _ more =>
    refine visits_goto (awake (by grind)) ?_
    have : i.val = i' → i = ⟨i', by omega⟩ := by grind
    grind [Pc.Visits, Pc.role, inspect]
  | @scanEnd j n i' r z _ last =>
    have used := h.queue.used i
    have eventCount := h.scan.eventCount j n
    refine visits_goto (awake (by grind)) ?_
    grind [Pc.Visits, Pc.role, scanEnd]
  | @advanceDelayedFails j n i' z =>
    have := h.scan.delayed j i'
    grind [Pc.role]
  | _ => exact visits_goto (awake next) (by grind [Pc.Visits, Pc.role])

include h step fits hargs in
theorem pending_step (busy : w'.st.queuedEventCount ≠ 0) :
    (∃ i, (w'.st.queuedEvents i).id ≠ 0) ∨ ∃ k, (w'.pc k).role.engaged := by
  have pending := h.wake.pending
  cases step with
  | @retry j c =>
    have range := h.ids.range j
    have := route_cases (range (by grind)).1 c
    have := ahead h (k := j)
    have := h.place.current j c
    have := h.ids.base
    refine (pending (by grind)).imp id fun h => engaged_goto h (by grind [Pc.role])
  | @reserve j => exact .inr ⟨j, by grind [Pc.role]⟩
  | overflow => grind
  | @discard j => exact .inr ⟨j, by grind [Pc.role]⟩
  | @store j i' =>
    have := h.ids.range j
    exact .inl ⟨i', by grind⟩
  | probeEmpty => grind
  | @scanEnd j n i' r z _ last =>
    have scanned := h.scan.scanned j n i' z
    by_cases all : ∀ i, (w.st.queuedEvents i).id = 0
    · refine (pending (by grind)).imp id fun h => engaged_goto h ?_
      grind [Pc.role, scanEnd]
    · exact .inl (by simpa using all)
  | @advanceDelayed j => exact .inr ⟨j, by grind [Pc.role]⟩
  | advanceFails =>
    have := h.place.fast
    grind [Pc.role]
  | @advanceDelayedFails j n i z =>
    have := h.scan.delayed j i
    grind [Pc.role]
  | @returning j b =>
    refine (pending busy).imp id fun h => engaged_goto h (by grind [Pc.role, afterCallback])
  | @inspect j n i' r z _ more =>
    refine (pending (by grind)).imp id fun h => engaged_goto h (by grind [Pc.role, inspect])
  | @reset => grind
  | @resetFails j =>
    have := h.scan.empty j
    grind
  | _ => exact (pending busy).imp id fun h => engaged_goto h (by grind [Pc.role])

include h step hargs fits in
theorem inv_step : Inv args (ls ++ [l]) w' where
  locks := locks_step h step
  ids := ids_step h step fits
  place := place_step h step
  custody := custody_step hargs h step
  slots := slots_step hargs h step
  queue := queue_step h step fits
  scan := scan_step h step fits
  wake := ⟨storing_step h step, awake_step hargs h step, pending_step hargs h step fits⟩

end Step

end ArcdpsHealing.Sequencer
