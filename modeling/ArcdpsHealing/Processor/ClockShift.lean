import ArcdpsHealing.Lib.Clock
import ArcdpsHealing.Processor.Relay

namespace ArcdpsHealing.Processor

open Arcdps Lib

def shiftEvent (c : Enums) (d : UInt64) (e : CbtEvent) : CbtEvent :=
  let moved := { e with time := e.time + d }
  if e.isStatechange = c.exitCombat then moved.writeIff (e.readIff + d) else moved

structure Stamped (c : Enums) (i : UInt16) (d : UInt64) (e : CbtEvent) : Prop where
  time : Shiftable d e.time
  last : e.isStatechange = c.exitCombat → e.srcInstid = i → Shiftable d e.readIff

def HealEvent.shift (d : UInt64) (e : HealEvent) : HealEvent := { e with time := e.time + d }

namespace PlayerStats

def Call.shift (d : UInt64) : Call → Call
  | enteredCombat time subGroup => enteredCombat (time + d) subGroup
  | exitedCombat time last => exitedCombat (time + d) (last + d)
  | resetIfNotInCombat => resetIfNotInCombat
  | damageEvent time => damageEvent (time + d)
  | healingEvent e destination => healingEvent { e with time := e.time + d } destination
  | barrierGenerationEvent e destination =>
    barrierGenerationEvent { e with time := e.time + d } destination

def Call.Stamped (d : UInt64) : Call → Prop
  | enteredCombat time _ => Shiftable d time
  | exitedCombat time last => Shiftable d time ∧ Shiftable d last
  | resetIfNotInCombat => True
  | damageEvent time => Shiftable d time
  | healingEvent e _ => Shiftable d e.time
  | barrierGenerationEvent e _ => Shiftable d e.time

def shift (d : UInt64) (s : PlayerStats) : PlayerStats where
  enteredCombatTime := s.enteredCombatTime + d
  exitedCombatTime := shiftTime d s.exitedCombatTime
  lastDamageEvent := shiftTime d s.lastDamageEvent
  subGroup := s.subGroup
  events := s.events.map (HealEvent.shift d)

structure Stamped (d : UInt64) (s : PlayerStats) : Prop where
  entered : Shiftable d s.enteredCombatTime
  exited : s.exitedCombatTime ≠ 0 → Shiftable d s.exitedCombatTime
  last : s.lastDamageEvent ≠ 0 → Shiftable d s.lastDamageEvent
  events : ∀ e ∈ s.events, Shiftable d e.time

inductive Shifted (d : UInt64) : PlayerStats → PlayerStats → Prop
  | untouched {s : PlayerStats} (out : s.IsOutOfCombat) : Shifted d s s
  | moved {s : PlayerStats} (stamped : s.Stamped d) : Shifted d s (s.shift d)

namespace Stamped

variable {d : UInt64} {s : PlayerStats} (h : s.Stamped d)

include h

theorem outOfCombat : (s.shift d).IsOutOfCombat ↔ s.IsOutOfCombat := by
  have left : s.enteredCombatTime + d ≠ 0 := h.entered.add_ne_zero
  have right := shiftTime_eq_zero h.exited
  simp only [IsOutOfCombat, shift, left, h.entered.nonzero, false_or, ne_eq, right]

theorem inCombat (out : ¬ s.IsOutOfCombat) : ¬ (s.shift d).IsOutOfCombat := mt h.outOfCombat.mp out

end Stamped

namespace Shifted

variable {d : UInt64} {s s' : PlayerStats} (h : Shifted d s s') {time : UInt64}
  (timed : Shiftable d time)

include h timed

theorem enteredCombat (subGroup : UInt16) :
    Shifted d (s.enteredCombat time subGroup) (s'.enteredCombat (time + d) subGroup) := by
  have fresh : Shifted d ⟨time, 0, 0, subGroup, []⟩ ⟨time + d, 0, 0, subGroup, []⟩ :=
    .moved ⟨timed, fun none => absurd rfl none, fun none => absurd rfl none,
      List.forall_mem_nil _⟩
  cases h with
  | untouched out =>
    rw [enteredCombat_of_out out, enteredCombat_of_out out]
    exact fresh
  | moved stamped =>
    by_cases out : s.IsOutOfCombat
    · rw [enteredCombat_of_out out, enteredCombat_of_out (stamped.outOfCombat.mpr out)]
      exact fresh
    · rw [enteredCombat_of_inCombat out, enteredCombat_of_inCombat (stamped.inCombat out)]
      exact .moved stamped

theorem exitedCombat {last : UInt64} (carried : Shiftable d last) :
    Shifted d (s.exitedCombat time last).2 (s'.exitedCombat (time + d) (last + d)).2 := by
  cases h with
  | untouched out =>
    rw [exitedCombat_of_out out, exitedCombat_of_out out]
    exact .untouched out
  | moved stamped =>
    by_cases out : s.IsOutOfCombat
    · rw [exitedCombat_of_out out, exitedCombat_of_out (stamped.outOfCombat.mpr out)]
      exact .moved stamped
    have inCombat := stamped.inCombat out
    have early : time + d ≤ (s.shift d).enteredCombatTime ↔ time ≤ s.enteredCombatTime :=
      timed.add_le_add stamped.entered
    by_cases early' : time ≤ s.enteredCombatTime
    · rw [exitedCombat_early out early', exitedCombat_early inCombat (early.mpr early')]
      exact .moved stamped
    · rw [exitedCombat_late out early', exitedCombat_late inCombat (mt early.mp early')]
      let ended := { s with
        exitedCombatTime := time, lastDamageEvent := max s.lastDamageEvent last }
      have shifted : ended.shift d = { s.shift d with
          exitedCombatTime := time + d
          lastDamageEvent := max (s.shift d).lastDamageEvent (last + d) } := by
        simp only [ended, shift, timed.shiftTime_eq, carried.shiftTime_max stamped.last]
      dsimp only
      rw [← shifted]
      exact .moved ⟨stamped.entered, fun _ => timed, fun _ => carried.max_of stamped.last,
        stamped.events⟩

theorem damageEvent : Shifted d (s.damageEvent time) (s'.damageEvent (time + d)) := by
  cases h with
  | untouched out =>
    rw [damageEvent_of_out out, damageEvent_of_out out]
    exact .untouched out
  | moved stamped =>
    by_cases out : s.IsOutOfCombat
    · rw [damageEvent_of_out out, damageEvent_of_out (stamped.outOfCombat.mpr out)]
      exact .moved stamped
    rw [damageEvent_of_inCombat out, damageEvent_of_inCombat (stamped.inCombat out)]
    have later : max (s.shift d).lastDamageEvent (time + d) =
        shiftTime d (max s.lastDamageEvent time) := (timed.shiftTime_max stamped.last).symm
    rw [later]
    exact .moved ⟨stamped.entered, stamped.exited, fun _ => timed.max_of stamped.last,
      stamped.events⟩

theorem record {e : CbtEvent} (same : e.time = time) (destination : UInt64) (barrier : Bool) :
    Shifted d (s.record e destination barrier)
      (s'.record { e with time := e.time + d } destination barrier) := by
  cases h with
  | untouched out =>
    rw [record_of_out out, record_of_out out]
    exact .untouched out
  | moved stamped =>
    by_cases out : s.IsOutOfCombat
    · rw [record_of_out out, record_of_out (stamped.outOfCombat.mpr out)]
      exact .moved stamped
    rw [record_of_inCombat out, record_of_inCombat (stamped.inCombat out)]
    let heal : HealEvent := healEvent e destination barrier
    let healed := { s with events := s.events ++ [heal] }
    have shifted : healed.shift d =
        { s.shift d with events := (s.shift d).events ++ [heal.shift d] } := by
      simp only [healed, shift, List.map_append, List.map_cons, List.map_nil]
    change Shifted d healed { s.shift d with events := (s.shift d).events ++ [heal.shift d] }
    rw [← shifted]
    refine .moved ⟨stamped.entered, stamped.exited, stamped.last, ?_⟩
    intro h member
    rcases List.mem_append.mp member with earlier | this
    · exact stamped.events h earlier
    · rw [List.mem_singleton.mp this]
      change Shiftable d e.time
      rwa [same]

omit timed in
theorem resetIfNotInCombat : Shifted d s.resetIfNotInCombat.2 s'.resetIfNotInCombat.2 := by
  cases h with
  | untouched out =>
    rw [resetIfNotInCombat_of_out out]
    exact .untouched (.inl rfl)
  | moved stamped =>
    by_cases out : s.IsOutOfCombat
    · rw [resetIfNotInCombat_of_out out,
        resetIfNotInCombat_of_out (stamped.outOfCombat.mpr out)]
      exact .untouched (.inl rfl)
    · rw [resetIfNotInCombat_of_inCombat out,
        resetIfNotInCombat_of_inCombat (stamped.inCombat out)]
      exact .moved stamped

omit timed in
theorem call {k : Call} (stamped : k.Stamped d) : Shifted d (s.call k) (s'.call (k.shift d)) := by
  cases k with
  | enteredCombat time subGroup => exact h.enteredCombat stamped subGroup
  | exitedCombat time last => exact h.exitedCombat stamped.1 stamped.2
  | resetIfNotInCombat => exact h.resetIfNotInCombat
  | damageEvent time => exact h.damageEvent stamped
  | healingEvent e destination => exact h.record stamped rfl destination false
  | barrierGenerationEvent e destination => exact h.record stamped rfl destination true

end Shifted

end PlayerStats

section Peer

variable {c : Enums} {d : UInt64} {i : UInt16} {e : CbtEvent}

theorem preProcessEvent_time (t : UInt64) : preProcessEvent c { e with time := t } true =
    { preProcessEvent c e true with time := t } := by
  unfold preProcessEvent
  change ite (getEventType c e true = .healing ∧ e.buff ≠ 0 ∧ e.skillid = 55026) _ _ = _
  split <;> rfl

theorem peerCall_shiftEvent (p : EventProcessor) :
    EventProcessor.peerCall c p (preProcessEvent c (shiftEvent c d e) true) i =
      (EventProcessor.peerCall c p (preProcessEvent c e true) i).map
        (PlayerStats.Call.shift d) := by
  have time : (shiftEvent c d e).time = e.time + d := by
    unfold shiftEvent
    split <;> rfl
  have change : (shiftEvent c d e).isStatechange = e.isStatechange := by
    unfold shiftEvent
    split <;> rfl
  have source : (shiftEvent c d e).srcInstid = e.srcInstid := by
    unfold shiftEvent
    split <;> rfl
  by_cases enter : e.isStatechange = c.enterCombat
  · have subGroup : (shiftEvent c d e).dstAgent = e.dstAgent := by
      unfold shiftEvent
      split <;> rfl
    simp only [EventProcessor.peerCall, isStatechange_preProcessEvent, srcInstid_preProcessEvent,
      time_preProcessEvent, dstAgent_preProcessEvent, time, change, source, subGroup,
      if_pos enter]
    split <;> rfl
  by_cases exit : e.isStatechange = c.exitCombat
  · have last : (shiftEvent c d e).readIff = e.readIff + d := by
      rw [shiftEvent, if_pos exit, CbtEvent.readIff_writeIff]
    simp only [EventProcessor.peerCall, isStatechange_preProcessEvent, srcInstid_preProcessEvent,
      time_preProcessEvent, readIff_preProcessEvent, time, change, source, last, if_neg enter,
      if_pos exit]
    split <;> rfl
  rw [shiftEvent, if_neg exit, preProcessEvent_time, ← time_preProcessEvent c e true]
  rw [← isStatechange_preProcessEvent c e true] at enter exit
  generalize preProcessEvent c e true = e at *
  have type : getEventType c { e with time := e.time + d } true = getEventType c e true := rfl
  unfold EventProcessor.peerCall
  dsimp only
  rw [if_neg enter, if_neg exit, if_neg enter, if_neg exit, type]
  cases getEventType c e true with
  | damage | semiDamaging =>
    dsimp only
    split <;> rfl
  | other => rfl
  | healing =>
    dsimp only
    cases p.agentTable.getUniqueId e.dstInstid true with
    | none => rfl
    | some destination =>
      dsimp only
      split
      case isTrue => rfl
      split <;> rfl

theorem stamped_peerCall (p : EventProcessor) (stamped : Stamped c i d e) :
    ∀ k ∈ EventProcessor.peerCall c p (preProcessEvent c e true) i, k.Stamped d := by
  obtain ⟨time, last⟩ := stamped
  rw [← time_preProcessEvent c e true] at time
  rw [← isStatechange_preProcessEvent c e true, ← srcInstid_preProcessEvent c e true,
    ← readIff_preProcessEvent c e true] at last
  generalize preProcessEvent c e true = e at *
  intro k called
  obtain ⟨-, rfl⟩ | ⟨exit, own, rfl⟩ | rfl | ⟨-, -, -, destination, rfl⟩ :=
    EventProcessor.peerCall_cases called
  · exact time
  · exact ⟨time, last exit own⟩
  · exact time
  · unfold recorded
    split <;> exact time

variable {u : UInt64}

theorem shifted_run {p p' : EventProcessor} (table : p'.agentTable = p.agentTable)
    (player : p.agentTable.getUniqueId i false = some u)
    (h : (p.peerState u).Shifted d (p'.peerState u)) (stream : List CbtEvent)
    (stamped : ∀ e ∈ stream, Stamped c i d e) :
    PlayerStats.Shifted d
      ((stream.foldl (fun p e => p.peerCombat c e i) p).peerState u)
      (((stream.map (shiftEvent c d)).foldl (fun p e => p.peerCombat c e i) p').peerState u) := by
  induction stream generalizing p p' with
  | nil => exact h
  | cons e stream ih =>
    have player' : p'.agentTable.getUniqueId i false = some u := table.symm ▸ player
    have call (q : EventProcessor) (known : q.agentTable.getUniqueId i false = some u)
        (e : CbtEvent) : (q.peerCombat c e i).peerState u =
          (EventProcessor.peerCall c q (preProcessEvent c e true) i).toList.foldl PlayerStats.call
            (q.peerState u) := by
      rw [EventProcessor.peerState_peerCombat c known, EventProcessor.peerUpdate_eq]
    refine ih ?_ ?_ ?_ fun e later => stamped e (List.mem_cons_of_mem _ later)
    · rw [EventProcessor.agentTable_peerCombat, EventProcessor.agentTable_peerCombat, table]
    · rw [EventProcessor.agentTable_peerCombat, player]
    · rw [call p player, call p' player', EventProcessor.peerCall_congr c table,
        peerCall_shiftEvent]
      have timed := stamped_peerCall p (stamped e List.mem_cons_self)
      cases made : EventProcessor.peerCall c p (preProcessEvent c e true) i with
      | none => exact h
      | some k => exact h.call (timed k made)

end Peer

end ArcdpsHealing.Processor
