import ArcdpsHealing.Arcdps.EventType
import ArcdpsHealing.Processor.AgentTable
import ArcdpsHealing.Processor.PlayerStats

namespace ArcdpsHealing.Processor

open Arcdps

structure EventProcessor where
  localState : PlayerStats := {}
  selfInstanceId : UInt32 := 0xFFFFFFFF
  selfUniqueId : UInt64 := 0xFFFFFFFFFFFFFFFF
  agentTable : AgentTable := .empty
  peerStates : Std.ExtTreeMap UInt64 PlayerStats := ∅

/-- What a call reads from elsewhere: `timeGetTime()`, and which peers' states
another thread holds a reference to. -/
structure Ambient where
  time : UInt32 := 0
  referenced : UInt64 → Bool := fun _ => false

namespace EventProcessor

variable (c : Enums)

/-- A peer that has no entry yet starts from an empty one. -/
def peerState (p : EventProcessor) (uniqueId : UInt64) : PlayerStats :=
  (p.peerStates[uniqueId]?).getD {}

/-- The sweep over `mPeerStates` when somebody enters combat. -/
def sweepPeers (env : Ambient) (peers : Std.ExtTreeMap UInt64 PlayerStats) :
    Std.ExtTreeMap UInt64 PlayerStats :=
  peers.filterMap fun uniqueId stats =>
    if stats.resetIfNotInCombat.1 ∧ env.referenced uniqueId = false then none
    else some stats.resetIfNotInCombat.2

/-- `LocalCombat` without an event: an agent appears or leaves. -/
def localAgent (env : Ambient) (p : EventProcessor) (source destination : Ag) : EventProcessor :=
  if source.elite ≠ 0 then p
  else if source.prof ≠ 0 then
    let isPlayer := destination.name.any (· ≠ [])
    let p := match source.name with
      | none => p
      | some name =>
        let agent := ⟨source.id, destination.id.toUInt16, name, destination.name,
          some destination.team, none, some isPlayer, destination.prof, destination.elite⟩
        { p with agentTable := p.agentTable.addAgent agent }
    if destination.self ≠ 0 then
      { p with selfInstanceId := destination.id.toUInt16.toUInt32, selfUniqueId := source.id }
    else p
  else if source.id = p.selfUniqueId then
    { p with localState := (p.localState.exitedCombat env.time.toUInt64).2 }
  else p

/-- `AreaCombat` without an event. A player who leaves exits combat. -/
def areaAgent (env : Ambient) (p : EventProcessor) (source destination : Ag) : EventProcessor :=
  if source.elite ≠ 0 then p
  else if source.prof ≠ 0 then
    let isPlayer := destination.name.any (· ≠ [])
    match source.name with
    | none => p
    | some name =>
      let agent := ⟨source.id, destination.id.toUInt16, name, destination.name,
        some destination.team, none, some isPlayer, destination.prof, destination.elite⟩
      { p with agentTable := p.agentTable.addAgent agent }
  else
    match p.peerStates[source.id]? with
    | none => p
    | some stats =>
      { p with peerStates := p.peerStates.insert source.id
                 (stats.exitedCombat env.time.toUInt64).2 }

/-- `AreaCombat` with an event. All but combat enters only add to logs and to the
names of skills. -/
def areaCombat (p : EventProcessor) (event : CbtEvent) (source destination : Ag) :
    EventProcessor :=
  let e := preProcessEvent c event false
  if e.isStatechange = c.enterCombat then
    let isPlayer := destination.name.any (· ≠ [])
    match source.name with
    | none => p
    | some name =>
      let agent := ⟨source.id, e.srcInstid, name, none, some e.dstAgent.toUInt16,
        some (e.srcMasterInstid ≠ 0), some isPlayer, source.prof, source.elite⟩
      { p with agentTable := p.agentTable.addAgent agent }
  else p

/-- What `LocalCombat` leaves behind: the event as patched in place, and the
copy it hands out when it carries more than the event did. -/
structure Outcome where
  processor : EventProcessor
  event : CbtEvent
  modified : Option CbtEvent

/-- `LocalCombat` with an event. -/
def localCombat (env : Ambient) (p : EventProcessor) (event : CbtEvent)
    (source destination : Ag) : Outcome :=
  let e := preProcessEvent c event true
  if e.isStatechange = c.enterCombat then
    let entered := if source.self ≠ 0 then
      p.localState.enteredCombat e.time e.dstAgent.toUInt16 else p.localState
    ⟨{ p with localState := entered, peerStates := sweepPeers env p.peerStates }, e, none⟩
  else if e.isStatechange = c.exitCombat then
    if source.self ≠ 0 then
      let (last, stats) := p.localState.exitedCombat e.time
      ⟨{ p with localState := stats }, e, some (e.writeIff last)⟩
    else ⟨p, e, none⟩
  else
    match getEventType c e true with
    | .damage | .semiDamaging =>
      if (source.self ≠ 0 ∨ destination.self ≠ 0) ∧ e.iff = c.foe then
        ⟨{ p with localState := p.localState.damageEvent e.time }, e, none⟩
      else ⟨p, e, none⟩
    | .other => ⟨p, e, none⟩
    | .healing =>
      if source.self = 0 ∧ e.srcMasterInstid ≠ p.selfInstanceId.toUInt16 then ⟨p, e, none⟩
      else
        let agentTable := match destination.name with
          | none => p.agentTable
          | some name => p.agentTable.addAgent ⟨destination.id, e.dstInstid, name, none, none,
              some (e.dstMasterInstid ≠ 0), none, destination.prof, destination.elite⟩
        let stats := if e.isShields ≠ 0 then
            p.localState.barrierGenerationEvent e destination.id
          else p.localState.healingEvent e destination.id
        ⟨{ p with agentTable := agentTable, localState := stats }, e, none⟩

/-- The part of `PeerCombat` that touches the peer's statistics. -/
def peerUpdate (p : EventProcessor) (e : CbtEvent) (peerInstanceId : UInt16)
    (stats : PlayerStats) : PlayerStats :=
  if e.isStatechange = c.enterCombat then
    if e.srcInstid = peerInstanceId then stats.enteredCombat e.time e.dstAgent.toUInt16
    else stats
  else if e.isStatechange = c.exitCombat then
    if e.srcInstid = peerInstanceId then (stats.exitedCombat e.time e.readIff).2 else stats
  else
    match getEventType c e true with
    | .damage | .semiDamaging =>
      if (e.srcInstid = peerInstanceId ∨ e.dstInstid = peerInstanceId) ∧ e.iff = c.foe then
        stats.damageEvent e.time
      else stats
    | .other => stats
    | .healing =>
      match p.agentTable.getUniqueId e.dstInstid true with
      | none => stats
      | some destination =>
        if e.srcInstid ≠ peerInstanceId ∧ e.srcMasterInstid ≠ peerInstanceId then stats
        else if e.isShields ≠ 0 then stats.barrierGenerationEvent e destination
        else stats.healingEvent e destination

def peerCombat (p : EventProcessor) (event : CbtEvent) (peerInstanceId : UInt16) :
    EventProcessor :=
  let e := preProcessEvent c event true
  match p.agentTable.getUniqueId peerInstanceId false with
  | none => p
  | some uniqueId =>
    { p with peerStates := p.peerStates.insert uniqueId
               (peerUpdate c p e peerInstanceId (p.peerState uniqueId)) }

end EventProcessor

end ArcdpsHealing.Processor
