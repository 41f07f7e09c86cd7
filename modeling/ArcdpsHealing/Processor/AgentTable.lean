import ArcdpsHealing.Arcdps.Structs
import Mathlib.Data.Finset.Basic

namespace ArcdpsHealing.Processor

open Arcdps

structure HealedAgent where
  instanceId : UInt16
  name : CString
  accountName : CString
  subgroup : UInt16
  isMinion : Bool
  isPlayer : Bool
  profession : UInt32
  elite : UInt32
  deriving DecidableEq, Repr

/-- Agents are never erased, so an iterator into `mAgents` is its unique id. -/
structure AgentTable where
  agents : Std.ExtTreeMap UInt64 HealedAgent
  instanceIds : Std.ExtTreeMap UInt16 UInt64

/-- The arguments of `AddAgent`. -/
structure Agent where
  uniqueId : UInt64
  instanceId : UInt16
  agentName : CString
  accountName : Option CString
  subgroup : Option UInt16
  isMinion : Option Bool
  isPlayer : Option Bool
  profession : UInt32
  elite : UInt32
  deriving DecidableEq, Repr

/-- The entry that replaces `known`, with the fields the call left out. -/
def Agent.update (a : Agent) (known : HealedAgent) : HealedAgent where
  instanceId := a.instanceId
  name := a.agentName
  accountName := a.accountName.getD known.accountName
  subgroup := a.subgroup.getD known.subgroup
  isMinion := a.isMinion.getD known.isMinion
  isPlayer := a.isPlayer.getD known.isPlayer
  profession := a.profession
  elite := a.elite

/-- The entry for an agent that was not known. -/
def Agent.entry (a : Agent) : HealedAgent where
  instanceId := a.instanceId
  name := a.agentName
  accountName := a.accountName.getD []
  subgroup := a.subgroup.getD 0
  isMinion := a.isMinion.getD false
  isPlayer := a.isPlayer.getD false
  profession := a.profession
  elite := a.elite

def Agent.Differs (a : Agent) (known : HealedAgent) : Prop :=
  known.name ≠ a.agentName ∨ (∃ n ∈ a.accountName, known.accountName ≠ n) ∨
    known.instanceId ≠ a.instanceId ∨ (∃ g ∈ a.subgroup, known.subgroup ≠ g) ∨
    (∃ m ∈ a.isMinion, known.isMinion ≠ m) ∨ (∃ p ∈ a.isPlayer, known.isPlayer ≠ p) ∨
    known.profession ≠ a.profession ∨ known.elite ≠ a.elite

instance (a : Agent) (known : HealedAgent) : Decidable (a.Differs known) :=
  inferInstanceAs (Decidable (_ ∨ _))

namespace AgentTable

def empty : AgentTable := ⟨∅, ∅⟩

def addAgent (t : AgentTable) (a : Agent) : AgentTable where
  agents :=
    match t.agents[a.uniqueId]? with
    | none => t.agents.insert a.uniqueId a.entry
    | some known =>
      if a.Differs known then t.agents.insert a.uniqueId (a.update known) else t.agents
  instanceIds := t.instanceIds.insert a.instanceId a.uniqueId

def getUniqueId (t : AgentTable) (instanceId : UInt16) (allowNonPlayer : Bool) :
    Option UInt64 := do
  let uniqueId ← t.instanceIds[instanceId]?
  let agent ← t.agents[uniqueId]?
  if allowNonPlayer = false ∧ agent.isPlayer = false then none else some uniqueId

def getName (t : AgentTable) (uniqueId : UInt64) : Option CString :=
  (t.agents[uniqueId]?).map (·.name)

def getAgentData (t : AgentTable) (uniqueId : UInt64) : Option HealedAgent := t.agents[uniqueId]?

end AgentTable

end ArcdpsHealing.Processor
