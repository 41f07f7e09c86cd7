import ArcdpsHealing.Networking.Client
import ArcdpsHealing.Processor.AgentHistory
import ArcdpsHealing.Processor.EventProcessor
import Mathlib.Data.List.DropRight

namespace ArcdpsHealing.Processor

open Arcdps Networking EventProcessor

structure AreaNotification where
  env : Ambient
  source : Ag
  destination : Ag

namespace AreaNotification

variable (n : AreaNotification)

def About (u : UInt64) : Prop := n.source.elite = 0 ∧ n.source.id = u

instance (u : UInt64) : Decidable (n.About u) := inferInstanceAs (Decidable (_ ∧ _))

def Registers : Prop := n.source.prof ≠ 0

instance : Decidable n.Registers := inferInstanceAs (Decidable (_ ≠ _))

def instanceId : UInt16 := n.destination.id.toUInt16

def peerInfo : Option PeerInfo :=
  if n.destination.self = 0 then
    (n.destination.name.filter (· ≠ [])).map fun name => ⟨n.instanceId, name⟩
  else none

def namedInstanceId : Option UInt16 :=
  if n.Registers then n.source.name.map fun _ => n.instanceId else none

end AreaNotification

structure AreaTables where
  processor : EventProcessor := {}
  mPeers : PeerMap := ∅

def AreaTables.notify (t : AreaTables) (n : AreaNotification) : AreaTables where
  processor := t.processor.areaAgent n.env n.source n.destination
  mPeers := processAreaAgent t.mPeers n.source n.destination

def notified (run : List AreaNotification) : AreaTables := run.foldl AreaTables.notify {}

theorem notified_concat (run : List AreaNotification) (n : AreaNotification) :
    notified (run ++ [n]) = (notified run).notify n := by
  simp [notified]

theorem getElem?_processAreaAgent (mPeers : PeerMap) (n : AreaNotification) (u : UInt64) :
    (processAreaAgent mPeers n.source n.destination)[u]? =
      if n.About u then if n.Registers then (mPeers[u]?).or n.peerInfo else none
      else mPeers[u]? := by
  -- The first registration counts, until the agent leaves.
  unfold processAreaAgent AreaNotification.About AreaNotification.Registers
  by_cases elite : n.source.elite = 0
  case neg => simp [elite]
  rw [if_neg (not_not.mpr elite)]
  by_cases prof : n.source.prof = 0
  · simp [elite, prof, Std.ExtTreeMap.getElem?_erase]
  rw [if_pos prof]
  simp only [elite, prof, true_and, ne_eq, not_false_eq_true, if_true]
  -- One that is known already keeps its entry.
  have inserted (info : PeerInfo) : (mPeers.insertIfNew n.source.id info)[u]? =
      if n.source.id = u then (mPeers[u]?).or (some info) else mPeers[u]? := by
    rw [Lib.Reconcile.getElem?_insertIfNew_eq_or]
    split
    · rfl
    · exact Option.or_none
  unfold AreaNotification.peerInfo
  cases n.destination.name with
  | none => simp
  | some name =>
    by_cases self : n.destination.self = 0
    · by_cases empty : name = []
      · simp [self, empty, Option.filter]
      · simp [self, empty, inserted, Option.filter, AreaNotification.instanceId]
    · simp [self]

theorem instanceId_areaAgent (p : EventProcessor) (n : AreaNotification) (u : UInt64) :
    (((p.areaAgent n.env n.source n.destination).agentTable.getAgentData u).map
        (·.instanceId)) =
      if n.About u then
        n.namedInstanceId.or ((p.agentTable.getAgentData u).map (·.instanceId))
      else (p.agentTable.getAgentData u).map (·.instanceId) := by
  unfold areaAgent AreaNotification.About AreaNotification.namedInstanceId
    AreaNotification.Registers
  by_cases elite : n.source.elite = 0
  case neg => simp [elite]
  rw [if_neg (not_not.mpr elite)]
  by_cases prof : n.source.prof = 0
  · rw [if_neg (not_not.mpr prof)]
    cases p.peerStates[n.source.id]? <;> simp [prof]
  rw [if_pos prof]
  cases n.source.name with
  | none => simp [prof]
  | some name =>
    dsimp only
    rw [AgentTable.getAgentData_addAgent]
    by_cases here : n.source.id = u
    · cases p.agentTable.getAgentData u <;>
        simp [elite, prof, here, Agent.entry, Agent.update, AreaNotification.instanceId]
    · simp [here]

def about (u : UInt64) (run : List AreaNotification) : List AreaNotification :=
  run.filter (·.About u)

theorem about_concat (u : UInt64) (run : List AreaNotification) (n : AreaNotification) :
    about u (run ++ [n]) = if n.About u then about u run ++ [n] else about u run := by
  unfold about
  rw [List.filter_append]
  by_cases here : n.About u <;> simp [here]

theorem getElem?_mPeers (run : List AreaNotification) (u : UInt64) :
    (notified run).mPeers[u]? =
      ((about u run).rtakeWhile (·.Registers)).findSome? AreaNotification.peerInfo := by
  induction run using List.reverseRecOn with
  | nil => simp [notified, about]
  | append_singleton run n ih =>
    rw [notified_concat, about_concat]
    change (processAreaAgent _ n.source n.destination)[u]? = _
    rw [getElem?_processAreaAgent, ih]
    by_cases here : n.About u
    · by_cases registers : n.Registers
      · simp [here, registers]
      · simp [here, registers]
    · simp [here]

theorem instanceId_agentTable (run : List AreaNotification) (u : UInt64) :
    ((notified run).processor.agentTable.getAgentData u).map (·.instanceId) =
      ((about u run).filterMap AreaNotification.namedInstanceId).getLast? := by
  induction run using List.reverseRecOn with
  | nil => rfl
  | append_singleton run n ih =>
    rw [notified_concat, about_concat]
    change ((areaAgent n.env _ n.source n.destination).agentTable.getAgentData u).map _ = _
    rw [instanceId_areaAgent, ih]
    by_cases here : n.About u
    · rw [if_pos here, if_pos here, List.filterMap_append, List.getLast?_append]
      cases named : n.namedInstanceId with
      | none => simp [named]
      | some i => simp [named]
    · rw [if_neg here, if_neg here]

/-- The client keeps the first registration of an agent since it left last, the
processor the latest that has a character name. -/
theorem tables_of_notifications (run : List AreaNotification) (u : UInt64) :
    let t := notified run
    let mine := about u run
    let held := (t.processor.agentTable.getAgentData u).map (·.instanceId)
    t.mPeers[u]? = (mine.rtakeWhile (·.Registers)).findSome? AreaNotification.peerInfo ∧
      held = (mine.filterMap AreaNotification.namedInstanceId).getLast? ∧
      (∀ n, mine.getLast? = some n → ¬ n.Registers → t.mPeers[u]? = none) ∧
      ∀ n info, mine.getLast? = some n → n.Registers → n.peerInfo = some info →
        (t.mPeers[u]?).isSome ∧ (n.source.name.isSome → held = some info.instanceId) := by
  dsimp only
  rw [getElem?_mPeers, instanceId_agentTable]
  refine ⟨rfl, rfl, fun n last leaves => ?_, fun n info last registers peer => ⟨?_, fun name => ?_⟩⟩
  · obtain ⟨earlier, split⟩ := List.getLast?_eq_some_iff.mp last
    rw [split]
    simp [leaves]
  · obtain ⟨earlier, split⟩ := List.getLast?_eq_some_iff.mp last
    rw [split]
    simp [registers, peer]
  · obtain ⟨earlier, split⟩ := List.getLast?_eq_some_iff.mp last
    have same : n.instanceId = info.instanceId := by
      unfold AreaNotification.peerInfo at peer
      split at peer
      case isTrue =>
        obtain ⟨name, -, rfl⟩ := Option.map_eq_some_iff.mp peer
        rfl
      case isFalse => nomatch peer
    have named : n.namedInstanceId = some info.instanceId := by
      obtain ⟨name, known⟩ := Option.isSome_iff_exists.mp name
      rw [AreaNotification.namedInstanceId, if_pos registers, known, Option.map_some, same]
    rw [split]
    simp [named]

/-- A player registers with instance id 5, and then again with 6. -/
theorem mPeers_keeps_first :
    let registers (i : UInt64) : AreaNotification :=
      ⟨{}, ⟨some [65], 1, 1, 0, 0, 1⟩, ⟨some [66], i, 1, 0, 0, 1⟩⟩
    let t := notified [registers 5, registers 6]
    (about 1 [registers 5, registers 6]).getLast? = some (registers 6) ∧
      (registers 6).Registers ∧ (registers 6).peerInfo = some ⟨6, [66]⟩ ∧
      t.mPeers[(1 : UInt64)]? = some ⟨5, [66]⟩ ∧
      (t.processor.agentTable.getAgentData 1).map (·.instanceId) = some 6 := by
  exact ⟨rfl, by decide, by decide, by decide, by decide⟩

end ArcdpsHealing.Processor
