import ArcdpsHealing.Lib.Reconcile
import ArcdpsHealing.Processor.PeerReset
import ArcdpsHealing.Stats.Collection

namespace ArcdpsHealing.Stats

open Arcdps Lib Processor Settings

inductive Query
  | getTotal
  | getStats (dataSource : Enumeration)
  | getDetails (dataSource : Enumeration) (id : UInt64)
  | getGroupFilterTotals
  deriving DecidableEq

inductive Answer
  | entry (total : Tally)
  | vector (v : AggregatedVector)

namespace AggregatedStats

/-- What `AggregatedStats` has computed so far. -/
structure Cache where
  myTotal : Option Tally := none
  myFilteredAgents : Option AggregatedVector := none
  mySkills : Option AggregatedVector := none
  myGroupFilterTotals : Option AggregatedVector := none
  myAgentsDetailed : Std.ExtTreeMap UInt64 AggregatedVector := ∅
  mySkillsDetailed : Std.ExtTreeMap UInt32 AggregatedVector := ∅

variable (x : AggregatedStats)

def answer (skills : SkillTable) : Query → Answer
  | .getTotal => .entry (x.getTotal skills)
  | .getStats dataSource => .vector (x.getStats skills dataSource)
  | .getDetails dataSource id => .vector (x.getDetails skills dataSource id)
  | .getGroupFilterTotals => .vector x.getGroupFilterTotals

namespace Cache

variable (k : Cache) (skills : SkillTable)

def getAgents (skillId : Option UInt32) : AggregatedVector × Cache :=
  match skillId with
  | some id =>
    match k.mySkillsDetailed[id]? with
    | some v => (v, k)
    | none =>
      let v := x.getAgents (some id)
      (v, { k with mySkillsDetailed := k.mySkillsDetailed.insert id v })
  | none =>
    match k.myFilteredAgents with
    | some v => (v, k)
    | none =>
      let v := x.getAgents none
      (v, { k with myFilteredAgents := some v })

def getSkills (agentId : Option UInt64) : AggregatedVector × Cache :=
  match agentId with
  | some id =>
    match k.myAgentsDetailed[id]? with
    | some v => (v, k)
    | none =>
      let v := x.getSkills skills (some id)
      (v, { k with myAgentsDetailed := k.myAgentsDetailed.insert id v })
  | none =>
    match k.mySkills with
    | some v => (v, k)
    | none =>
      let v := x.getSkills skills none
      (v, { k with mySkills := some v })

def getGroupFilterTotals : AggregatedVector × Cache :=
  match k.myGroupFilterTotals with
  | some v => (v, k)
  | none =>
    let v := x.getGroupFilterTotals
    (v, { k with myGroupFilterTotals := some v })

/-- The total adds up the view by skills, which may be older. -/
def getTotal : Tally × Cache :=
  match k.myTotal with
  | some t => (t, k)
  | none =>
    let (v, k) := k.getSkills x skills none
    let t := total (·.toTally) v.entries
    (t, { k with myTotal := some t })

def getStats (dataSource : Enumeration) : AggregatedVector × Cache :=
  if dataSource = DataSource.skills then k.getSkills x skills none
  else if dataSource = DataSource.agents then k.getAgents x none
  else k.getGroupFilterTotals x

def getDetails (dataSource : Enumeration) (id : UInt64) : AggregatedVector × Cache :=
  if dataSource = DataSource.skills then k.getAgents x (some id.toUInt32)
  else k.getSkills x skills (some id)

def ask : Query → Answer × Cache
  | .getTotal => let (t, k) := k.getTotal x skills; (.entry t, k)
  | .getStats dataSource => let (v, k) := k.getStats x skills dataSource; (.vector v, k)
  | .getDetails dataSource id => let (v, k) := k.getDetails x skills dataSource id; (.vector v, k)
  | .getGroupFilterTotals => let (v, k) := k.getGroupFilterTotals x; (.vector v, k)

end Cache

structure Computed (T : SkillTable → Prop) (k : Cache) : Prop where
  total : ∀ t, k.myTotal = some t → ∃ skills, T skills ∧ t = x.getTotal skills
  filteredAgents : ∀ v, k.myFilteredAgents = some v → v = x.getAgents none
  skills : ∀ v, k.mySkills = some v → ∃ skills, T skills ∧ v = x.getSkills skills none
  groupFilterTotals : ∀ v, k.myGroupFilterTotals = some v → v = x.getGroupFilterTotals
  agentsDetailed : ∀ id v, k.myAgentsDetailed[id]? = some v →
    ∃ skills, T skills ∧ v = x.getSkills skills (some id)
  skillsDetailed : ∀ id v, k.mySkillsDetailed[id]? = some v → v = x.getAgents (some id)

namespace Computed

variable {x} {T : SkillTable → Prop} {k : Cache} {skills : SkillTable}

theorem empty : Computed x T {} := ⟨nofun, nofun, nofun, nofun, by simp, by simp⟩

theorem mono {T' : SkillTable → Prop} (h : Computed x T k) (more : ∀ t, T t → T' t) :
    Computed x T' k := by
  refine ⟨fun t here => ?_, h.filteredAgents, fun v here => ?_, h.groupFilterTotals,
    fun id v here => ?_, h.skillsDetailed⟩
  · obtain ⟨skills, live, same⟩ := h.total t here
    exact ⟨skills, more _ live, same⟩
  · obtain ⟨skills, live, same⟩ := h.skills v here
    exact ⟨skills, more _ live, same⟩
  · obtain ⟨skills, live, same⟩ := h.agentsDetailed id v here
    exact ⟨skills, more _ live, same⟩

theorem getAgents (h : Computed x T k) (skillId : Option UInt32) :
    (k.getAgents x skillId).1 = x.getAgents skillId ∧ Computed x T (k.getAgents x skillId).2 := by
  unfold Cache.getAgents
  cases skillId with
  | some id =>
    dsimp only
    split
    · rename_i v here
      exact ⟨h.skillsDetailed id v here, h⟩
    · refine ⟨rfl, h.total, h.filteredAgents, h.skills, h.groupFilterTotals, h.agentsDetailed, ?_⟩
      intro other v here
      rcases Reconcile.getElem?_insert_eq_some.mp here with ⟨rfl, rfl⟩ | ⟨_, before⟩
      · rfl
      · exact h.skillsDetailed other v before
  | none =>
    dsimp only
    split
    · rename_i v here
      exact ⟨h.filteredAgents v here, h⟩
    · refine ⟨rfl, h.total, ?_, h.skills, h.groupFilterTotals, h.agentsDetailed,
        h.skillsDetailed⟩
      exact fun v here => (Option.some.inj here).symm

theorem getSkills (h : Computed x T k) (live : T skills) (agentId : Option UInt64) :
    (∃ skills', T skills' ∧ (k.getSkills x skills agentId).1 = x.getSkills skills' agentId) ∧
      Computed x T (k.getSkills x skills agentId).2 := by
  unfold Cache.getSkills
  cases agentId with
  | some id =>
    dsimp only
    split
    · rename_i v here
      exact ⟨h.agentsDetailed id v here, h⟩
    · refine ⟨⟨skills, live, rfl⟩, h.total, h.filteredAgents, h.skills, h.groupFilterTotals, ?_,
        h.skillsDetailed⟩
      intro other v here
      rcases Reconcile.getElem?_insert_eq_some.mp here with ⟨rfl, rfl⟩ | ⟨_, before⟩
      · exact ⟨skills, live, rfl⟩
      · exact h.agentsDetailed other v before
  | none =>
    dsimp only
    split
    · rename_i v here
      exact ⟨h.skills v here, h⟩
    · refine ⟨⟨skills, live, rfl⟩, h.total, h.filteredAgents, ?_, h.groupFilterTotals,
        h.agentsDetailed, h.skillsDetailed⟩
      exact fun v here => ⟨skills, live, (Option.some.inj here).symm⟩

theorem getGroupFilterTotals (h : Computed x T k) :
    (k.getGroupFilterTotals x).1 = x.getGroupFilterTotals ∧
      Computed x T (k.getGroupFilterTotals x).2 := by
  unfold Cache.getGroupFilterTotals
  split
  · rename_i v here
    exact ⟨h.groupFilterTotals v here, h⟩
  · refine ⟨rfl, h.total, h.filteredAgents, h.skills, ?_, h.agentsDetailed, h.skillsDetailed⟩
    exact fun v here => (Option.some.inj here).symm

theorem getTotal (h : Computed x T k) (live : T skills) :
    (∃ skills', T skills' ∧ (k.getTotal x skills).1 = x.getTotal skills') ∧
      Computed x T (k.getTotal x skills).2 := by
  unfold Cache.getTotal
  split
  · rename_i t here
    exact ⟨h.total t here, h⟩
  · obtain ⟨⟨skills', older, shown⟩, h⟩ := h.getSkills live none
    have same :
        Lib.total (·.toTally) (k.getSkills x skills none).1.entries = x.getTotal skills' := by
      rw [shown]
      rfl
    refine ⟨⟨skills', older, same⟩, ?_, h.filteredAgents, h.skills, h.groupFilterTotals,
      h.agentsDetailed, h.skillsDetailed⟩
    exact fun t here => ⟨skills', older, (Option.some.inj here).symm.trans same⟩

theorem ask (h : Computed x T k) (live : T skills) (q : Query) :
    (∃ skills', T skills' ∧ (k.ask x skills q).1 = x.answer skills' q) ∧
      Computed x T (k.ask x skills q).2 := by
  -- Every answer is the one for some table that has been live.
  have bySkill (agentId : Option UInt64) := h.getSkills live agentId
  have byAgent (skillId : Option UInt32) := h.getAgents skillId
  cases q with
  | getTotal =>
    obtain ⟨⟨skills', older, same⟩, h⟩ := h.getTotal live
    exact ⟨⟨skills', older, congrArg Answer.entry same⟩, h⟩
  | getStats dataSource =>
    simp only [Cache.ask, Cache.getStats, answer, getStats]
    split
    · obtain ⟨⟨skills', older, same⟩, h⟩ := bySkill none
      exact ⟨⟨skills', older, congrArg Answer.vector same⟩, h⟩
    split
    · exact ⟨⟨skills, live, congrArg Answer.vector (byAgent none).1⟩, (byAgent none).2⟩
    · have totals := h.getGroupFilterTotals
      exact ⟨⟨skills, live, congrArg Answer.vector totals.1⟩, totals.2⟩
  | getDetails dataSource id =>
    simp only [Cache.ask, Cache.getDetails, answer, getDetails]
    split
    · exact ⟨⟨skills, live, congrArg Answer.vector (byAgent _).1⟩, (byAgent _).2⟩
    · obtain ⟨⟨skills', older, same⟩, h⟩ := bySkill (some id)
      exact ⟨⟨skills', older, congrArg Answer.vector same⟩, h⟩
  | getGroupFilterTotals =>
    have totals := h.getGroupFilterTotals
    exact ⟨⟨skills, live, congrArg Answer.vector totals.1⟩, totals.2⟩

end Computed

def Keeps (skills skills' : SkillTable) : Prop :=
  ∀ e ∈ x.mySourceData.events,
    skills'.isSkillIndirectHealing e.skillId = skills.isSkillIndirectHealing e.skillId ∧
      skills'.getSkillName e.skillId = skills.getSkillName e.skillId

theorem getSkills_keeps {skills skills' : SkillTable} (keeps : x.Keeps skills skills')
    (agentId : Option UInt64) : x.getSkills skills' agentId = x.getSkills skills agentId := by
  -- A view by skills reads the table at recorded skills only.
  have known (row : UInt32 × Tally)
      (member : row ∈ rows HealEvent.skillId tally (x.skillEvents agentId)) :
      skills'.isSkillIndirectHealing row.1 = skills.isSkillIndirectHealing row.1 ∧
        skills'.getSkillName row.1 = skills.getSkillName row.1 := by
    obtain ⟨e, here, same⟩ := List.mem_map.mp ((mem_rows HealEvent.skillId tally).mp member).1
    rw [← same]
    exact keeps e (List.mem_filter.mp here).1
  have fold (rows : List (UInt32 × Tally)) (known : ∀ row ∈ rows,
        skills'.isSkillIndirectHealing row.1 = skills.isSkillIndirectHealing row.1 ∧
          skills'.getSkillName row.1 = skills.getSkillName row.1)
      (acc : AggregatedVector × Tally) :
      rows.foldl (x.addSkill skills') acc = rows.foldl (x.addSkill skills) acc := by
    induction rows generalizing acc with
    | nil => rfl
    | cons row rows ih =>
      obtain ⟨kind, name⟩ := known row (.head _)
      have here : x.addSkill skills' acc row = x.addSkill skills acc row := by
        simp only [addSkill, skillEntry, skillName, kind, name]
      rw [List.foldl_cons, List.foldl_cons, here]
      exact ih (fun row member => known row (.tail _ member)) _
  simp only [getSkills, fold _ known]

theorem answer_keeps {skills skills' : SkillTable} (keeps : x.Keeps skills skills') (q : Query) :
    x.answer skills' q = x.answer skills q := by
  cases q with
  | getTotal => simp only [answer, getTotal, x.getSkills_keeps keeps]
  | getStats dataSource => simp only [answer, getStats, x.getSkills_keeps keeps]
  | getDetails dataSource id => simp only [answer, getDetails, x.getSkills_keeps keeps]
  | getGroupFilterTotals => rfl

def IgnoresSkills : Query → Prop
  | .getTotal => x.myDebugMode = false
  | .getStats dataSource => dataSource ≠ DataSource.skills
  | .getDetails dataSource _ => dataSource = DataSource.skills
  | .getGroupFilterTotals => True

theorem answer_ignores {q : Query} (ignores : x.IgnoresSkills q) (skills skills' : SkillTable) :
    x.answer skills' q = x.answer skills q := by
  cases q with
  | getTotal =>
    rw [answer, answer, x.getTotal_of_not_debug ignores, x.getTotal_of_not_debug ignores]
  | getStats dataSource =>
    have other : dataSource ≠ DataSource.skills := ignores
    simp only [answer, getStats, if_neg other]
  | getDetails dataSource id =>
    have agents : dataSource = DataSource.skills := ignores
    simp only [answer, getDetails, if_pos agents]
  | getGroupFilterTotals => rfl

end AggregatedStats

end ArcdpsHealing.Stats
