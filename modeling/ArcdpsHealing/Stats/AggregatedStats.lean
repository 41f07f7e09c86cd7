import ArcdpsHealing.Lib.Group
import ArcdpsHealing.Processor.AgentTable
import ArcdpsHealing.Processor.PlayerStats
import ArcdpsHealing.Settings.State
import ArcdpsHealing.Stats.SkillTable
import Mathlib.Data.List.Sort
import Mathlib.Data.UInt

namespace ArcdpsHealing.Stats

open Arcdps Lib Processor Settings

/-- `HealingStats`, but for the shared `Skills`, which each query is given as it
stands at the time. -/
structure HealingStats extends PlayerStats where
  collectionTime : UInt64 := 0
  agents : Std.ExtTreeMap UInt64 HealedAgent := ∅

@[ext]
structure Tally where
  healing : UInt64
  hits : UInt64
  barrierGeneration : UInt64
  deriving DecidableEq

namespace Tally

instance : Zero Tally := ⟨⟨0, 0, 0⟩⟩

instance : Add Tally :=
  ⟨fun a b => ⟨a.healing + b.healing, a.hits + b.hits, a.barrierGeneration + b.barrierGeneration⟩⟩

@[simp] theorem healing_zero : (0 : Tally).healing = 0 := rfl
@[simp] theorem hits_zero : (0 : Tally).hits = 0 := rfl
@[simp] theorem barrierGeneration_zero : (0 : Tally).barrierGeneration = 0 := rfl

variable (a b : Tally)

@[simp] theorem healing_add : (a + b).healing = a.healing + b.healing := rfl
@[simp] theorem hits_add : (a + b).hits = a.hits + b.hits := rfl
@[simp] theorem barrierGeneration_add :
    (a + b).barrierGeneration = a.barrierGeneration + b.barrierGeneration := rfl

instance : AddCommMonoid Tally where
  add_assoc a b c := by ext <;> simp [add_assoc]
  zero_add a := by ext <;> simp
  add_zero a := by ext <;> simp
  add_comm a b := by ext <;> simp [add_comm]
  nsmul := nsmulRec

theorem add_eq_left : a + b = a ↔ b = 0 := by
  simp [Tally.ext_iff]

end Tally

/-- What an event adds to the row it belongs to. -/
def tally (e : HealEvent) : Tally where
  healing := e.size
  hits := 1
  barrierGeneration := if e.isBarrierGeneration = true then e.size else 0

/-- The time in combat is in milliseconds, before it is divided by 1000. -/
structure AggregatedStatsEntry extends Tally where
  id : UInt64
  name : CString
  timeInCombat : UInt64
  deriving DecidableEq

structure AggregatedVector where
  entries : List AggregatedStatsEntry := []
  highestHealing : UInt64 := 0

def AggregatedVector.add (v : AggregatedVector) (entry : AggregatedStatsEntry) :
    AggregatedVector where
  entries := v.entries ++ [entry]
  highestHealing := max v.highestHealing entry.healing

def indirectHealingSkillId : UInt32 := 0

def decimal (n : Nat) : CString := utf8 (Nat.repr n)

def snprintf (s : CString) : CString := s.take 1023

def isDelim (c : UInt8) : Bool := c = 44 ∨ c = 59 ∨ c = 32

/-- `std::from_chars` on the whole of a token. -/
def fromChars (token : List UInt8) : Option UInt32 :=
  if token ≠ [] ∧ token.all (fun c => 48 ≤ c ∧ c ≤ 57) then
    let value := token.foldl (fun value c => 10 * value + (c.toNat - 48)) 0
    if value < 2 ^ 32 then some (UInt32.ofNat value) else none
  else none

def parseUInt32String (s : CString) : List UInt32 :=
  ((s.splitBy fun a b => isDelim a = isDelim b).filter fun chunk =>
    !isDelim (chunk.headD 0)).filterMap fromChars

structure AggregatedStats where
  mySourceData : HealingStats
  myOptions : HealWindowOptions
  myDebugMode : Bool

namespace AggregatedStats

variable (x : AggregatedStats)

/-- The time that the combat end condition asks for, or 0. -/
def conditionEnd : UInt64 :=
  let events := x.mySourceData.events
  let lastDamageEvent := x.mySourceData.lastDamageEvent
  if x.myOptions.combatEndConditionChoice = CombatEndCondition.combatExit then
    x.mySourceData.exitedCombatTime
  else if x.myOptions.combatEndConditionChoice = CombatEndCondition.lastHealEvent then
    (events.getLast?.map HealEvent.time).getD 0
  else if x.myOptions.combatEndConditionChoice = CombatEndCondition.lastDamageEvent then
    lastDamageEvent
  else
    match events.getLast? with
    | some e => max lastDamageEvent e.time
    | none => lastDamageEvent

def getCombatEnd : UInt64 :=
  let s := x.mySourceData
  let fallback := if s.exitedCombatTime ≠ 0 then s.exitedCombatTime else s.collectionTime
  let last := if x.conditionEnd = 0 then fallback else x.conditionEnd
  if last < s.enteredCombatTime then s.enteredCombatTime else last

/-- In milliseconds. -/
def getCombatTime : UInt64 :=
  if x.mySourceData.enteredCombatTime = 0 then 0
  else x.getCombatEnd - x.mySourceData.enteredCombatTime

/-- The tests that the three loops over the events begin with. -/
def counts (e : HealEvent) : Bool :=
  if e.time > x.getCombatEnd then false
  else if e.isAgainstDowned = true ∧ x.myOptions.excludeAgainstDowned = true then false
  else if e.isAgainstDowned = false ∧ x.myOptions.excludeAgainstNonDowned = true then false
  else if e.isBarrierGeneration = true ∧ x.myOptions.excludeBarrierGeneration = true then false
  else if e.isBarrierGeneration = false ∧ x.myOptions.excludeHealing = true then false
  else true

def getIncludedSkills : List UInt32 := parseUInt32String x.myOptions.includedSkills.val

/-- Whether the skill is filtered out. -/
def filterSkill (skillId : UInt32) : Bool :=
  if x.getIncludedSkills = [] then false else skillId ∉ x.getIncludedSkills

/-- Whether the agent is filtered out. -/
def filterInternal (agent : Option HealedAgent) (filter : HealWindowOptions) : Bool :=
  match agent with
  | none => filter.excludeUnmapped
  | some agent =>
    if agent.name = [] then filter.excludeUnmapped
    else if agent.isMinion = true ∧ filter.excludeMinions = true then true
    else if agent.subgroup = 0 ∧ x.mySourceData.subGroup ≠ 0 ∧ filter.excludeOffSquad = true then
      true
    else if agent.subgroup ≠ 0 ∧ x.mySourceData.subGroup ≠ agent.subgroup ∧
        filter.excludeOffGroup = true then true
    else agent.subgroup = x.mySourceData.subGroup ∧ filter.excludeGroup = true

def filter (agentId : UInt64) : Bool := x.filterInternal x.mySourceData.agents[agentId]? x.myOptions

/-- What `std::sort` is told to compare by. It leaves the order of what compares
equal open. -/
def sortsBefore (sortOrder : Enumeration) (left right : AggregatedStatsEntry) : Bool :=
  if sortOrder = SortOrder.ascendingAlphabetical then left.name < right.name
  else if sortOrder = SortOrder.descendingAlphabetical then left.name > right.name
  else if sortOrder = SortOrder.ascendingTotalOutgoingSize then left.healing < right.healing
  else if sortOrder = SortOrder.descendingTotalOutgoingSize then left.healing > right.healing
  else if sortOrder = SortOrder.ascendingHealSize then
    left.healing - left.barrierGeneration < right.healing - right.barrierGeneration
  else if sortOrder = SortOrder.descendingHealSize then
    left.healing - left.barrierGeneration > right.healing - right.barrierGeneration
  else if sortOrder = SortOrder.ascendingBarrierGenerationSize then
    left.barrierGeneration < right.barrierGeneration
  else if sortOrder = SortOrder.descendingBarrierGenerationSize then
    left.barrierGeneration > right.barrierGeneration
  else false

/-- `Sort`, which does nothing for an order that it does not know. -/
def sort (v : AggregatedVector) : AggregatedVector :=
  { v with entries :=
      v.entries.insertionSort fun left right =>
        !sortsBefore x.myOptions.sortOrderChoice right left }

/-- The events that `GetAgents` adds up. -/
def agentEvents (skillId : Option UInt32) : List HealEvent :=
  x.mySourceData.events.filter fun e =>
    if !x.counts e then false
    else if ∃ id ∈ skillId, e.skillId ≠ id then false
    else if x.filterSkill e.skillId = true then false
    else !x.filter e.agentId

def agentName (agentId : UInt64) : CString :=
  let agent := x.mySourceData.agents[agentId]?
  if x.myDebugMode = false then
    match agent with
    | some agent => agent.name
    | none => decimal agentId.toNat
  else
    match agent with
    | some agent =>
      snprintf (decimal agentId.toNat ++ utf8 " ; " ++ decimal agent.subgroup.toNat ++ utf8 " ; " ++
        decimal agent.isMinion.toNat ++ utf8 " ; " ++ agent.name)
    | none => snprintf (decimal agentId.toNat ++ utf8 " ; (UNMAPPED)")

def agentEntry (row : UInt64 × Tally) : AggregatedStatsEntry :=
  { row.2 with id := row.1, name := x.agentName row.1, timeInCombat := x.getCombatTime }

def getAgents (skillId : Option UInt32) : AggregatedVector :=
  x.sort ((rows HealEvent.agentId tally (x.agentEvents skillId)).foldl
    (fun v row => v.add (x.agentEntry row)) {})

/-- The events that `GetSkills` adds up. -/
def skillEvents (agentId : Option UInt64) : List HealEvent :=
  x.mySourceData.events.filter fun e =>
    if !x.counts e then false
    else if x.filterSkill e.skillId = true then false
    else
      match agentId with
      | some id => e.agentId = id
      | none => !x.filter e.agentId

def skillName (skills : SkillTable) (skillId : UInt32) : CString :=
  let name := (skills.getSkillName skillId).getD (decimal skillId.toNat)
  if x.myDebugMode = true then
    snprintf ((if skills.isSkillIndirectHealing skillId = true then utf8 "(INDIRECT) ; " else []) ++
      decimal skillId.toNat ++ utf8 " ; " ++ name)
  else name

def skillEntry (skills : SkillTable) (row : UInt32 × Tally) : AggregatedStatsEntry :=
  { row.2 with id := row.1.toUInt64, name := x.skillName skills row.1
               timeInCombat := x.getCombatTime }

/-- The second loop of `GetSkills`, with what has been found to be indirect
healing so far. -/
def addSkill (skills : SkillTable) (acc : AggregatedVector × Tally) (row : UInt32 × Tally) :
    AggregatedVector × Tally :=
  if skills.isSkillIndirectHealing row.1 = true then
    (if x.myDebugMode = false then acc.1 else acc.1.add (x.skillEntry skills row), acc.2 + row.2)
  else (acc.1.add (x.skillEntry skills row), acc.2)

def indirectEntry (indirect : Tally) : AggregatedStatsEntry :=
  { indirect with id := indirectHealingSkillId.toUInt64
                  name := utf8 "透過造成傷害進行治療(傷害轉換成治療)"
                  timeInCombat := x.getCombatTime }

def getSkills (skills : SkillTable) (agentId : Option UInt64) : AggregatedVector :=
  let (v, indirect) := (rows HealEvent.skillId tally (x.skillEvents agentId)).foldl
    (x.addSkill skills) ({}, 0)
  x.sort (if indirect ≠ 0 then v.add (x.indirectEntry indirect) else v)

/-- `GetTotal`. -/
def getTotal (skills : SkillTable) : Tally := total (·.toTally) (x.getSkills skills none).entries

/-- `GetDetails`. The id of a skill is cut to 32 bits. -/
def getDetails (skills : SkillTable) (dataSource : Enumeration) (id : UInt64) : AggregatedVector :=
  if dataSource = DataSource.skills then x.getAgents (some id.toUInt32)
  else x.getSkills skills (some id)

end AggregatedStats

end ArcdpsHealing.Stats
