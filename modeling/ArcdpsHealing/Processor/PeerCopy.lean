import ArcdpsHealing.Lib.Word
import ArcdpsHealing.Processor.Relay

namespace ArcdpsHealing.Processor

open Arcdps Networking Lib PlayerStats

/-- How far a peer's copy may lag behind: only by damage, only in budget mode
and only during combat. -/
structure Agrees (budgetMode : Bool) (own copy : PlayerStats) : Prop where
  entered : copy.enteredCombatTime = own.enteredCombatTime
  exited : copy.exitedCombatTime = own.exitedCombatTime
  subGroup : copy.subGroup = own.subGroup
  events : copy.events = own.events
  behind : copy.lastDamageEvent ≤ own.lastDamageEvent
  settled : own.IsOutOfCombat → copy.lastDamageEvent = own.lastDamageEvent
  exact : budgetMode = false → copy.lastDamageEvent = own.lastDamageEvent

namespace Agrees

variable {budgetMode : Bool} {own copy : PlayerStats} (h : Agrees budgetMode own copy)

theorem refl (s : PlayerStats) : Agrees budgetMode s s :=
  ⟨rfl, rfl, rfl, rfl, UInt64.le_refl _, fun _ => rfl, fun _ => rfl⟩

theorem copy_eq (h : Agrees false own copy) : copy = own := by
  obtain ⟨entered, exited, subGroup, events, -, -, exact⟩ := h
  cases own
  cases copy
  simp_all

include h

theorem outOfCombat : copy.IsOutOfCombat ↔ own.IsOutOfCombat := by
  rw [PlayerStats.IsOutOfCombat, PlayerStats.IsOutOfCombat, h.entered, h.exited]

theorem enteredCombat (time : UInt64) (subGroup : UInt16) :
    Agrees budgetMode (own.enteredCombat time subGroup) (copy.enteredCombat time subGroup) := by
  by_cases out : own.IsOutOfCombat
  · rw [enteredCombat_of_out out, enteredCombat_of_out (h.outOfCombat.mpr out)]
    exact refl _
  · rw [enteredCombat_of_inCombat out, enteredCombat_of_inCombat (mt h.outOfCombat.mp out)]
    exact h

theorem exitedCombat (time : UInt64) :
    Agrees budgetMode (own.exitedCombat time).2
      (copy.exitedCombat time (own.exitedCombat time).1).2 := by
  -- A combat exit brings the last damage time along, which settles the copy.
  by_cases out : own.IsOutOfCombat
  · rw [exitedCombat_of_out out, exitedCombat_of_out (h.outOfCombat.mpr out)]
    exact h
  have copied := mt h.outOfCombat.mp out
  by_cases early : time ≤ own.enteredCombatTime
  · rw [exitedCombat_early out early, exitedCombat_early copied (h.entered ▸ early)]
    exact h
  rw [exitedCombat_late out early, exitedCombat_late copied (h.entered ▸ early)]
  have last : max copy.lastDamageEvent (max own.lastDamageEvent 0) =
      max own.lastDamageEvent 0 := max_eq_of_le (le_max_of_le h.behind 0)
  exact ⟨h.entered, rfl, h.subGroup, h.events, (UInt64.le_of_eq last), fun _ => last, fun _ => last⟩

theorem damageEvent (time : UInt64) :
    Agrees budgetMode (own.damageEvent time) (copy.damageEvent time) := by
  by_cases out : own.IsOutOfCombat
  · rw [damageEvent_of_out out, damageEvent_of_out (h.outOfCombat.mpr out)]
    exact h
  · rw [damageEvent_of_inCombat out, damageEvent_of_inCombat (mt h.outOfCombat.mp out)]
    refine ⟨h.entered, h.exited, h.subGroup, h.events, ?_, fun now => absurd now out, fun off => ?_⟩
    · exact max_le_max_of_le h.behind time
    · exact congrArg (max · time) (h.exact off)

theorem ownDamageEvent (on : budgetMode = true) (time : UInt64) :
    Agrees budgetMode (own.damageEvent time) copy := by
  by_cases out : own.IsOutOfCombat
  · rw [damageEvent_of_out out]
    exact h
  · rw [damageEvent_of_inCombat out]
    refine ⟨h.entered, h.exited, h.subGroup, h.events, ?_, fun now => absurd now out, fun off => ?_⟩
    · exact le_max_of_le h.behind time
    · rw [on] at off
      cases off

theorem record (e : CbtEvent) (destination : UInt64) (barrier : Bool) :
    Agrees budgetMode (own.record e destination barrier) (copy.record e destination barrier) := by
  by_cases out : own.IsOutOfCombat
  · rw [record_of_out out, record_of_out (h.outOfCombat.mpr out)]
    exact h
  · rw [record_of_inCombat out, record_of_inCombat (mt h.outOfCombat.mp out)]
    exact ⟨h.entered, h.exited, h.subGroup, congrArg (· ++ _) h.events, h.behind, h.settled,
      h.exact⟩

end Agrees

variable (c : Enums) {budgetMode : Bool} {i : UInt16} {u : UInt64} {p : Pair} {x : Callback}

theorem Agrees.moves {own copy : PlayerStats} {alike : Prop} {e : CbtEvent}
    {mine full spared : Option PlayerStats.Call} (h : Agrees budgetMode own copy)
    (moves : Moves alike own e mine full spared) (same : alike) :
    Agrees budgetMode (mine.toList.foldl PlayerStats.call own)
      ((if budgetMode = true then spared else full).toList.foldl PlayerStats.call copy) := by
  cases moves with
  | nothing =>
    rw [ite_self]
    exact h
  | enters subGroup =>
    rw [ite_self]
    exact h.enteredCombat _ _
  | exits =>
    rw [ite_self]
    exact h.exitedCombat _
  | damages =>
    split
    case isTrue on => exact h.ownDamageEvent on _
    case isFalse => exact h.damageEvent _
  | heals mine theirs matching =>
    rw [ite_self, matching same]
    cases mine with
    | none => exact h
    | some destination =>
      simp only [Option.map_some, Option.toList_some, List.foldl_cons, List.foldl_nil,
        call_recorded]
      exact h.record _ _ _

theorem Agrees.relay (h : Agrees budgetMode p.sender.localState (p.receiver.peerState u))
    (reg : Registered i u p) (same : Consistent i p.receiver.agentTable x) :
    Agrees budgetMode (relay c budgetMode i p x).sender.localState
      ((relay c budgetMode i p x).receiver.peerState u) := by
  obtain ⟨mine, full, spared, moves, own, copy⟩ := relay_calls c budgetMode reg.player same.owned
  rw [own, copy]
  exact h.moves moves ⟨reg.self, same.known⟩

theorem Agrees.run (h : Agrees budgetMode p.sender.localState (p.receiver.peerState u))
    (reg : Registered i u p) (run : List Callback)
    (same : ∀ x ∈ run, Consistent i p.receiver.agentTable x) :
    let q := run.foldl (Processor.relay c budgetMode i) p
    Agrees budgetMode q.sender.localState (q.receiver.peerState u) := by
  induction run generalizing p with
  | nil => exact h
  | cons x run ih =>
    have here := same x (.head _)
    refine ih (h.relay c reg here) (reg.relay c) fun y later => ?_
    rw [agentTable_relay]
    exact same y (.tail _ later)

/-- The statistics on both sides after every callback of a run. -/
theorem peer_copy_agrees (budgetMode : Bool) (i : UInt16) (u : UInt64) (p : Pair)
    (reg : Registered i u p) (start : p.receiver.peerState u = p.sender.localState)
    (run : List Callback) (same : ∀ x ∈ run, Consistent i p.receiver.agentTable x) :
    let q := run.foldl (relay c budgetMode i) p
    let own := q.sender.localState
    let copy := q.receiver.peerState u
    (budgetMode = false → copy = own) ∧
      copy.enteredCombatTime = own.enteredCombatTime ∧
      copy.exitedCombatTime = own.exitedCombatTime ∧
      copy.subGroup = own.subGroup ∧ copy.events = own.events ∧
      copy.lastDamageEvent ≤ own.lastDamageEvent ∧
      (own.IsOutOfCombat → copy.lastDamageEvent = own.lastDamageEvent) := by
  have begin : Agrees budgetMode p.sender.localState (p.receiver.peerState u) := by
    rw [start]
    exact .refl _
  have after := begin.run c reg run same
  refine ⟨fun off => ?_, after.entered, after.exited, after.subGroup, after.events, after.behind,
    after.settled⟩
  subst off
  exact after.copy_eq

section Witness

def fightTable : AgentTable :=
  (AgentTable.empty.addAgent ⟨77, 5, [65], some [66], some 1, none, some true, 1, 0⟩).addAgent
    ⟨88, 9, [67], none, none, some false, none, 1, 0⟩

def fightEvent (time : UInt64) (buff isStatechange : UInt8) (buffDmg : Int32) : CbtEvent :=
  ⟨time, 77, 88, 0, buffDmg, 0, 100, 5, 9, 0, 0, 1, buff, 0, 0, 0, 0, 0, 0, isStatechange, 0, 0,
    0, 0, 0, 0, 0⟩

def fightEvents : List CbtEvent :=
  [fightEvent 10 0 1 0, fightEvent 20 1 0 (-7), fightEvent 30 1 0 12,
    { fightEvent 40 0 2 0 with iff := 0 }]

def fight : List Callback :=
  fightEvents.map fun e => ⟨e, ⟨some [65], 77, 1, 0, 1, 1⟩, ⟨some [67], 88, 1, 0, 0, 1⟩, {}⟩

def fightPair : Pair := ⟨{ selfInstanceId := 5 }, { agentTable := fightTable }⟩

theorem fightTable_self : fightTable.getUniqueId 5 false = some 77 := by
  simp [fightTable, AgentTable.getUniqueId, AgentTable.addAgent, AgentTable.empty, Agent.entry,
    Std.ExtTreeMap.getElem?_insert, Std.ExtTreeMap.getElem_insert]

theorem fightTable_enemy : fightTable.getUniqueId 9 true = some 88 := by
  simp [fightTable, AgentTable.getUniqueId, AgentTable.addAgent, AgentTable.empty,
    Std.ExtTreeMap.getElem?_insert]

theorem fight_consistent : ∀ x ∈ fight, Consistent 5 fightTable x := by
  intro x mem
  obtain ⟨e, event, rfl⟩ := List.mem_map.mp mem
  have ids : ∀ e ∈ fightEvents, e.srcInstid = 5 ∧ e.dstInstid = 9 := by decide
  have ids := ids e event
  constructor
  · simp [ids]
  · simp [ids]
  · simpa [ids] using fightTable_enemy

theorem peer_copy_agrees_fight :
    let q := fight.foldl (relay .documented true 5) fightPair
    let own := q.sender.localState
    let copy := q.receiver.peerState 77
    (true = false → copy = own) ∧
      copy.enteredCombatTime = own.enteredCombatTime ∧
      copy.exitedCombatTime = own.exitedCombatTime ∧
      copy.subGroup = own.subGroup ∧ copy.events = own.events ∧
      copy.lastDamageEvent ≤ own.lastDamageEvent ∧
      (own.IsOutOfCombat → copy.lastDamageEvent = own.lastDamageEvent) :=
  peer_copy_agrees .documented true 5 77 fightPair ⟨rfl, fightTable_self⟩ rfl fight
    fight_consistent

/-- The fight leaves something to agree on. -/
example : (fight.foldl (relay .documented true 5) fightPair).sender.localState =
    ⟨10, 40, 20, 88, [⟨30, 12, 88, 100, false, false⟩]⟩ := by
  decide

end Witness

end ArcdpsHealing.Processor
