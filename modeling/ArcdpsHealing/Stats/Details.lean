import ArcdpsHealing.Stats.Conservation

namespace ArcdpsHealing.Stats

open Arcdps Lib Processor Settings

def AggregatedVector.row (v : AggregatedVector) (id : UInt64) : List Tally :=
  (v.entries.filter (·.id = id)).map (·.toTally)

def SkillTable.single : SkillTable := ({} : SkillTable).registerDamagingSkill 5

def SkillTable.late : SkillTable := ({} : SkillTable).registerDamagingSkill 4

namespace AggregatedStats

variable (x : AggregatedStats) (skills : SkillTable)

theorem getDetails_agents (id : UInt64) :
    x.getDetails skills DataSource.agents id = x.getSkills skills (some id) := rfl

theorem getDetails_skills (id : UInt64) :
    x.getDetails skills DataSource.skills id = x.getAgents (some id.toUInt32) := rfl

section Debug

def withDebug (debug : Bool) : AggregatedStats := { x with myDebugMode := debug }

theorem sums_indirect_eq_zero {events : List HealEvent} (bounded : events.length < 2 ^ 64) :
    total tally (indirect skills events) = 0 ↔
      ∀ e ∈ events, skills.isSkillIndirectHealing e.skillId = false := by
  have fewer : (indirect skills events).length < 2 ^ 64 :=
    lt_of_le_of_lt (List.length_filter_le _ _) bounded
  rw [total_tally, sums_eq_zero fewer, indirect, List.filter_eq_nil_iff]
  simp

theorem bounded_skillEvents (bounded : x.mySourceData.events.length < 2 ^ 64)
    (agentId : Option UInt64) : (x.skillEvents agentId).length < 2 ^ 64 :=
  lt_of_le_of_lt (List.length_filter_le _ _) bounded

theorem getSkills_withDebug (bounded : x.mySourceData.events.length < 2 ^ 64)
    (agentId : Option UInt64) :
    total (·.toTally) ((x.withDebug true).getSkills skills agentId).entries =
        total (·.toTally) ((x.withDebug false).getSkills skills agentId).entries ↔
      ∀ e ∈ x.skillEvents agentId, skills.isSkillIndirectHealing e.skillId = false := by
  have same (debug : Bool) : (x.withDebug debug).skillEvents agentId = x.skillEvents agentId := rfl
  rw [total_getSkills, total_getSkills, same, same]
  simp only [withDebug, if_true, Bool.false_eq_true, if_false, add_zero]
  rw [Tally.add_eq_left, sums_indirect_eq_zero skills (x.bounded_skillEvents bounded agentId)]

/-- Debug mode leaves the numbers alone just when no event that passes the
filters other than that of agents is indirect healing. -/
theorem debug_mode_iff (bounded : x.mySourceData.events.length < 2 ^ 64) :
    ((x.withDebug true).getTotal skills = (x.withDebug false).getTotal skills ∧
      ∀ id, total (·.toTally)
            ((x.withDebug true).getDetails skills DataSource.agents id).entries =
          total (·.toTally)
            ((x.withDebug false).getDetails skills DataSource.agents id).entries) ↔
      ∀ e ∈ x.passing, skills.isSkillIndirectHealing e.skillId = false := by
  simp only [getTotal, getDetails_agents, getSkills_withDebug x skills bounded]
  simp only [skillEvents_none, skillEvents_some]
  constructor
  · rintro ⟨-, details⟩ e member
    exact details e.agentId e (List.mem_filter.mpr ⟨member, by simp⟩)
  · intro direct
    constructor
    · intro e member
      exact direct e (List.mem_filter.mp member).1
    · intro id e member
      exact direct e (List.mem_filter.mp member).1

theorem debug_mode_iff_several :
    (∃ e ∈ several.mySourceData.events, SkillTable.late.isSkillIndirectHealing e.skillId = true) ∧
      (several.withDebug true).getTotal .late = (several.withDebug false).getTotal .late :=
  have direct : ∀ e ∈ several.passing, SkillTable.late.isSkillIndirectHealing e.skillId = false :=
    by decide
  ⟨by decide, ((several.debug_mode_iff .late (by decide)).mpr direct).1⟩

/-- Indirect healing counts twice in debug mode. -/
theorem debug_mode_single :
    (single.withDebug true).getTotal .single = ⟨100, 2, 0⟩ ∧
      (single.withDebug false).getTotal .single = ⟨50, 1, 0⟩ := by
  decide

end Debug

section Rows

def cell (agentId : UInt64) (skillId : UInt32) : List Tally :=
  let events := x.passing.filter fun e => e.agentId = agentId ∧ e.skillId = skillId
  if events = [] then [] else [total tally events]

theorem length_cell (agentId : UInt64) (skillId : UInt32) :
    (x.cell agentId skillId).length ≤ 1 := by
  unfold cell
  dsimp only
  split
  · exact Nat.zero_le 1
  · exact le_refl 1

variable {x skills}

theorem row_of_perm {v : AggregatedVector} {entries : List AggregatedStatsEntry}
    (perm : v.entries.Perm entries) {id : UInt64} {found : List Tally}
    (single : found.length ≤ 1) (h : (entries.filter (·.id = id)).map (·.toTally) = found) :
    v.row id = found := by
  have perm : (v.row id).Perm found := h ▸ (perm.filter _).map _
  match found, single with
  | [], _ => exact perm.eq_nil
  | [t], _ => exact perm.eq_singleton

theorem map_filter_rows {κ : Type} [DecidableEq κ] [Ord κ] [Std.TransOrd κ] [Std.LawfulEqOrd κ]
    (key : HealEvent → κ) (events : List HealEvent) (k : κ) {agentId : UInt64} {skillId : UInt32}
    (same : (events.filter fun e => key e = k) =
      x.passing.filter fun e => e.agentId = agentId ∧ e.skillId = skillId) :
    ((rows key tally events).filter (fun row => row.1 = k)).map Prod.snd =
      x.cell agentId skillId := by
  have known : k ∈ events.map key ↔ ¬ (events.filter fun e => key e = k) = [] := by
    rw [List.filter_eq_nil_iff]
    simp
  unfold cell
  rw [filter_rows, ← same]
  by_cases none : (events.filter fun e => key e = k) = []
  · rw [if_neg (mt known.mp (not_not.mpr none)), if_pos none]
    rfl
  · rw [if_pos (known.mpr none), if_neg none]
    rfl

theorem row_getAgents {agentId : UInt64} (shown : x.filter agentId = false) (skillId : UInt32) :
    (x.getAgents (some skillId)).row agentId = x.cell agentId skillId := by
  apply row_of_perm (x.entries_getAgents (some skillId)) (x.length_cell agentId skillId)
  rw [List.filter_map, List.map_map]
  apply map_filter_rows HealEvent.agentId
  rw [agentEvents_some, included, List.filter_filter, List.filter_filter]
  apply List.filter_congr
  intro e _
  by_cases same : e.agentId = agentId
  · simp [same, shown]
  · simp [same]

theorem row_getSkills {agentId : UInt64} {skillId : UInt32}
    (direct : skills.isSkillIndirectHealing skillId = false)
    (proper : skillId = indirectHealingSkillId →
      total tally (indirect skills (x.passing.filter (·.agentId = agentId))) = 0) :
    (x.getSkills skills (some agentId)).row skillId.toUInt64 = x.cell agentId skillId := by
  apply row_of_perm (x.entries_getSkills skills (some agentId)) (x.length_cell agentId skillId)
  rw [List.filter_append, List.map_append, List.filter_map, List.map_map, List.filter_filter]
  have pseudo (m : Tally) (absent : skillId = indirectHealingSkillId → m = 0) :
      ((if m ≠ 0 then [x.indirectEntry m] else []).filter (·.id = skillId.toUInt64)) = [] := by
    by_cases h : m = 0
    · simp [h]
    · have other : ¬ indirectHealingSkillId = skillId := fun same => h (absent same.symm)
      simp [h, indirectEntry, UInt32.toUInt64_inj, other]
  rw [pseudo _ (by rwa [skillEvents_some]), List.map_nil, List.append_nil]
  have cell : ((rows HealEvent.skillId tally (x.skillEvents (some agentId))).filter fun row =>
      row.1 = skillId).map Prod.snd = x.cell agentId skillId := by
    apply map_filter_rows
    rw [skillEvents_some, List.filter_filter]
    apply List.filter_congr
    intro e _
    simp [and_comm]
  rw [← cell]
  congr 1
  apply List.filter_congr
  intro row _
  by_cases same : row.1 = skillId
  · simp [same, skillEntry, shows, direct]
  · simp [same, skillEntry, UInt32.toUInt64_inj]

/-- The rows of an agent agree with what they open, and each skill of the agent
has the same values as the agent has among those that the skill opens. The id of
indirect healing stands for one skill only where there is none. -/
theorem cross_tabulation (debug : x.myDebugMode = false) {entry : AggregatedStatsEntry}
    (here : entry ∈ (x.getAgents none).entries) (skills : SkillTable) :
    total (·.toTally) (x.getDetails skills DataSource.agents entry.id).entries = entry.toTally ∧
    ∀ skillId, skills.isSkillIndirectHealing skillId = false →
      (skillId = indirectHealingSkillId →
        total tally (indirect skills (x.passing.filter (·.agentId = entry.id))) = 0) →
      (x.getDetails skills DataSource.agents entry.id).row skillId.toUInt64 =
        (x.getDetails skills DataSource.skills skillId.toUInt64).row entry.id ∧
      ((x.getDetails skills DataSource.agents entry.id).row skillId.toUInt64).length ≤ 1 := by
  obtain ⟨e, member, rfl⟩ := x.mem_getAgents.mp here
  have shown : x.filter e.agentId = false := by
    rw [agentEvents_none] at member
    simpa using (List.mem_filter.mp member).2
  constructor
  · change total (·.toTally) (x.getSkills skills (some e.agentId)).entries = total tally _
    rw [total_getSkills, debug, if_neg Bool.false_ne_true, add_zero, skillEvents_some,
      agentEvents_none, included, List.filter_filter]
    congr 1
    apply List.filter_congr
    intro e' _
    by_cases same : e'.agentId = e.agentId
    · simp [same, shown]
    · simp [same]
  · intro skillId direct proper
    have left : (x.getDetails skills DataSource.agents e.agentId).row skillId.toUInt64 =
        x.cell e.agentId skillId := row_getSkills direct proper
    have right : (x.getDetails skills DataSource.skills skillId.toUInt64).row e.agentId =
        x.cell e.agentId skillId := by
      rw [getDetails_skills, UInt32.toUInt32_toUInt64]
      exact row_getAgents shown skillId
    change (x.getDetails skills DataSource.agents e.agentId).row skillId.toUInt64 =
        (x.getDetails skills DataSource.skills skillId.toUInt64).row e.agentId ∧
      ((x.getDetails skills DataSource.agents e.agentId).row skillId.toUInt64).length ≤ 1
    rw [left, right]
    exact ⟨rfl, x.length_cell e.agentId skillId⟩

theorem cross_tabulation_several :
    total (·.toTally) (several.getDetails .single DataSource.agents 7).entries = ⟨60, 2, 0⟩ ∧
      (several.getDetails .single DataSource.agents 7).row 6 =
        (several.getDetails .single DataSource.skills 6).row 7 :=
  have here : several.agentEntry (7, ⟨60, 2, 0⟩) ∈ (several.getAgents none).entries := by decide
  have both := several.cross_tabulation rfl here .single
  ⟨both.1, (both.2 6 (by decide) (by decide)).1⟩

/-- Indirect healing has a row that the agent has none of among the events of the
skill with its id. -/
theorem cross_tabulation_indirect :
    (∃ entry ∈ (single.getAgents none).entries, entry.id = 7) ∧
      SkillTable.single.isSkillIndirectHealing indirectHealingSkillId = false ∧
      (single.getDetails .single DataSource.agents 7).row 0 = [⟨50, 1, 0⟩] ∧
      (single.getDetails .single DataSource.skills 0).row 7 = [] := by
  decide

theorem total_details_skill (skills : SkillTable) (skillId : UInt32) :
    total (·.toTally) (x.getDetails skills DataSource.skills skillId.toUInt64).entries =
      sums (x.included.filter (·.skillId = skillId)) := by
  rw [getDetails_skills, UInt32.toUInt32_toUInt64, total_getAgents, agentEvents_some, total_tally]

theorem mem_getSkills (debug : x.myDebugMode = false) {agentId : Option UInt64}
    {entry : AggregatedStatsEntry} : entry ∈ (x.getSkills skills agentId).entries ↔
      (∃ e ∈ x.skillEvents agentId, skills.isSkillIndirectHealing e.skillId = false ∧
        x.skillEntry skills (e.skillId, total tally
          ((x.skillEvents agentId).filter fun e' => e'.skillId = e.skillId)) = entry) ∨
      (total tally (indirect skills (x.skillEvents agentId)) ≠ 0 ∧
        entry = x.indirectEntry (total tally (indirect skills (x.skillEvents agentId)))) := by
  rw [(x.entries_getSkills skills agentId).mem_iff, List.mem_append]
  have pseudo (m : Tally) : entry ∈ (if m ≠ 0 then [x.indirectEntry m] else []) ↔
      m ≠ 0 ∧ entry = x.indirectEntry m := by
    by_cases h : m = 0
    · simp [h]
    · simp [h]
  rw [pseudo, List.mem_map]
  apply or_congr_left
  constructor
  · rintro ⟨row, here, rfl⟩
    obtain ⟨here, direct⟩ := List.mem_filter.mp here
    obtain ⟨known, value⟩ := (mem_rows HealEvent.skillId tally).mp here
    obtain ⟨e, member, same⟩ := List.mem_map.mp known
    refine ⟨e, member, ?_, by rw [same, ← value]⟩
    simpa [shows, debug, same] using direct
  · rintro ⟨e, member, direct, rfl⟩
    refine ⟨_, List.mem_filter.mpr ⟨(mem_rows HealEvent.skillId tally).mpr
      ⟨List.mem_map_of_mem member, rfl⟩, ?_⟩, rfl⟩
    simp [shows, debug, direct]

/-- Every row of the view by skills can be opened just when there is no indirect
healing, or as much of it as of the skill whose id it goes by. -/
theorem drilldown_iff (debug : x.myDebugMode = false)
    (bounded : x.mySourceData.events.length < 2 ^ 64) (skills : SkillTable) :
    (∀ entry ∈ (x.getSkills skills none).entries,
      total (·.toTally) (x.getDetails skills DataSource.skills entry.id).entries =
        entry.toTally) ↔
      (∀ e ∈ x.included, skills.isSkillIndirectHealing e.skillId = false) ∨
      sums (x.included.filter (·.skillId = indirectHealingSkillId)) =
        sums (x.included.filter fun e => skills.isSkillIndirectHealing e.skillId) := by
  have events := x.skillEvents_none
  have zero : total tally (indirect skills x.included) = 0 ↔
      ∀ e ∈ x.included, skills.isSkillIndirectHealing e.skillId = false :=
    events ▸ sums_indirect_eq_zero skills (x.bounded_skillEvents bounded none)
  have opened : total (·.toTally) (x.getDetails skills DataSource.skills
      indirectHealingSkillId.toUInt64).entries =
        sums (x.included.filter (·.skillId = indirectHealingSkillId)) :=
    total_details_skill skills indirectHealingSkillId
  rw [← zero, ← total_tally (x.included.filter fun e => skills.isSkillIndirectHealing e.skillId)]
  constructor
  · intro all
    apply or_iff_not_imp_left.mpr
    intro some
    rw [← opened]
    refine all (x.indirectEntry (total tally (indirect skills x.included))) ?_
    rw [mem_getSkills debug, events]
    exact .inr ⟨some, rfl⟩
  · intro agrees entry here
    rw [mem_getSkills debug, events] at here
    rcases here with ⟨e, member, direct, rfl⟩ | ⟨some, rfl⟩
    · exact (total_details_skill skills e.skillId).trans (total_tally _).symm
    · exact opened.trans (agrees.resolve_left some)

theorem drilldown_iff_several :
    (several.getSkills .late none).row 6 = [⟨60, 3, 20⟩] ∧
      ∀ entry ∈ (several.getSkills .late none).entries,
        total (·.toTally) (several.getDetails .late DataSource.skills entry.id).entries =
          entry.toTally :=
  ⟨by decide, (drilldown_iff rfl (by decide) .late).mpr (.inl (by decide))⟩

/-- What the row for indirect healing opens is empty. -/
theorem drilldown_indirect :
    (single.getSkills .single none).row 0 = [⟨50, 1, 0⟩] ∧
      (single.getDetails .single DataSource.skills 0).entries = [] := by
  decide

end Rows

end AggregatedStats

end ArcdpsHealing.Stats
