import ArcdpsHealing.Stats.AggregatedStats

namespace ArcdpsHealing.Stats

open Arcdps Lib Processor Settings

/-- Total size, number and total barrier size of some events. -/
def sums (events : List HealEvent) : Tally where
  healing := (events.map (·.size)).sum
  hits := UInt64.ofNat events.length
  barrierGeneration := ((events.filter (·.isBarrierGeneration)).map (·.size)).sum

theorem total_tally (events : List HealEvent) : total tally events = sums events := by
  induction events with
  | nil => rfl
  | cons e events ih =>
    rw [total_cons, ih]
    have length : UInt64.ofNat (events.length + 1) = 1 + UInt64.ofNat events.length := by
      rw [UInt64.ofNat_add, add_comm]
      rfl
    cases h : e.isBarrierGeneration with
    | true => simp [sums, tally, h, length, Tally.ext_iff]
    | false => simp [sums, tally, h, length, Tally.ext_iff]

theorem sums_eq_zero {events : List HealEvent} (bounded : events.length < 2 ^ 64) :
    sums events = 0 ↔ events = [] := by
  constructor
  · intro zero
    have hits : UInt64.ofNat events.length = 0 := congrArg Tally.hits zero
    have : (UInt64.ofNat events.length).toNat = 0 := by rw [hits]; rfl
    rw [UInt64.toNat_ofNat', Nat.mod_eq_of_lt bounded] at this
    exact List.eq_nil_of_length_eq_zero this
  · rintro rfl
    rfl

theorem entries_foldl {α : Type} (f : α → AggregatedStatsEntry) (rows : List α)
    (v : AggregatedVector) :
    (rows.foldl (fun v row => v.add (f row)) v).entries = v.entries ++ rows.map f := by
  induction rows generalizing v with
  | nil => simp
  | cons row rows ih =>
    rw [List.foldl_cons, ih]
    simp [AggregatedVector.add]

namespace AggregatedStats

variable (x : AggregatedStats)

theorem sort_perm (v : AggregatedVector) : (x.sort v).entries.Perm v.entries :=
  List.perm_insertionSort _ _

def Passes (e : HealEvent) : Prop :=
  e.time ≤ x.getCombatEnd ∧
    ¬ (e.isAgainstDowned = true ∧ x.myOptions.excludeAgainstDowned = true) ∧
    ¬ (e.isAgainstDowned = false ∧ x.myOptions.excludeAgainstNonDowned = true) ∧
    ¬ (e.isBarrierGeneration = true ∧ x.myOptions.excludeBarrierGeneration = true) ∧
    ¬ (e.isBarrierGeneration = false ∧ x.myOptions.excludeHealing = true) ∧
    (x.getIncludedSkills = [] ∨ e.skillId ∈ x.getIncludedSkills)

instance (e : HealEvent) : Decidable (x.Passes e) := inferInstanceAs (Decidable (_ ∧ _))

def passing : List HealEvent := x.mySourceData.events.filter (x.Passes ·)

def included : List HealEvent := x.passing.filter fun e => !x.filter e.agentId

theorem counts_and (e : HealEvent) :
    (x.counts e && !x.filterSkill e.skillId) = decide (x.Passes e) := by
  have time : ¬ e.time > x.getCombatEnd ↔ e.time ≤ x.getCombatEnd := UInt64.not_lt
  unfold Passes counts filterSkill
  by_cases skill : x.getIncludedSkills = []
  · simp [skill]
    grind
  · simp [skill]
    grind

theorem agentEvents_none : x.agentEvents none = x.included := by
  unfold agentEvents included passing
  rw [List.filter_filter]
  apply List.filter_congr
  intro e _
  rw [← counts_and]
  cases x.counts e <;> cases x.filterSkill e.skillId <;> simp

theorem agentEvents_some (skillId : UInt32) :
    x.agentEvents (some skillId) = x.included.filter (·.skillId = skillId) := by
  unfold agentEvents included passing
  rw [List.filter_filter, List.filter_filter]
  apply List.filter_congr
  intro e _
  rw [← counts_and]
  cases x.counts e <;> cases x.filterSkill e.skillId <;> simp

theorem skillEvents_none : x.skillEvents none = x.included := by
  unfold skillEvents included passing
  rw [List.filter_filter]
  apply List.filter_congr
  intro e _
  rw [← counts_and]
  cases x.counts e <;> cases x.filterSkill e.skillId <;> simp

theorem skillEvents_some (agentId : UInt64) :
    x.skillEvents (some agentId) = x.passing.filter (·.agentId = agentId) := by
  unfold skillEvents passing
  rw [List.filter_filter]
  apply List.filter_congr
  intro e _
  rw [← counts_and]
  cases x.counts e <;> cases x.filterSkill e.skillId <;> simp

theorem entries_getAgents (skillId : Option UInt32) :
    (x.getAgents skillId).entries.Perm
      ((rows HealEvent.agentId tally (x.agentEvents skillId)).map x.agentEntry) := by
  unfold getAgents
  refine (x.sort_perm _).trans ?_
  rw [entries_foldl]
  exact List.Perm.refl _

section

variable (skills : SkillTable)

def indirect (events : List HealEvent) : List HealEvent :=
  events.filter fun e => skills.isSkillIndirectHealing e.skillId

def shows (row : UInt32 × Tally) : Bool :=
  x.myDebugMode || !skills.isSkillIndirectHealing row.1

theorem foldl_addSkill (rows : List (UInt32 × Tally)) (v : AggregatedVector) (t : Tally) :
    ((rows.foldl (x.addSkill skills) (v, t)).1.entries =
      v.entries ++ (rows.filter (x.shows skills)).map (x.skillEntry skills)) ∧
    (rows.foldl (x.addSkill skills) (v, t)).2 =
      t + total Prod.snd (rows.filter fun row => skills.isSkillIndirectHealing row.1) := by
  induction rows generalizing v t with
  | nil => simp
  | cons row rows ih =>
    cases i : skills.isSkillIndirectHealing row.1 with
    | false => simp [addSkill, shows, i, ih, AggregatedVector.add]
    | true =>
      cases d : x.myDebugMode with
      | false => simp [addSkill, shows, i, d, ih, add_assoc]
      | true => simp [addSkill, shows, i, d, ih, AggregatedVector.add, add_assoc]

theorem entries_getSkills (agentId : Option UInt64) :
    let indirect := total tally (indirect skills (x.skillEvents agentId))
    (x.getSkills skills agentId).entries.Perm
      (((rows HealEvent.skillId tally (x.skillEvents agentId)).filter (x.shows skills)).map
          (x.skillEntry skills) ++
        if indirect ≠ 0 then [x.indirectEntry indirect] else []) := by
  have ⟨entries, rest⟩ := x.foldl_addSkill skills
    (rows HealEvent.skillId tally (x.skillEvents agentId)) {} 0
  rw [sum_rows_filter HealEvent.skillId tally skills.isSkillIndirectHealing, zero_add] at rest
  rw [List.nil_append] at entries
  refine (x.sort_perm _).trans ?_
  unfold indirect
  rw [← entries, ← rest]
  split
  · exact List.Perm.refl _
  · rw [List.append_nil]

theorem total_getSkills (agentId : Option UInt64) :
    total (·.toTally) (x.getSkills skills agentId).entries =
      total tally (x.skillEvents agentId) +
        if x.myDebugMode = true then total tally (indirect skills (x.skillEvents agentId))
        else 0 := by
  -- What the rows of `GetSkills` add up to. In debug mode indirect healing is there twice, in
  -- rows of its own and in the row that stands for it.
  have row (m : Tally) : total (·.toTally) (if m ≠ 0 then [x.indirectEntry m] else []) = m := by
    by_cases h : m = 0
    · simp [h]
    · simp [h, indirectEntry]
  rw [total_perm _ (x.entries_getSkills skills agentId), total_append, total_map, row]
  change total Prod.snd _ + _ = _
  cases d : x.myDebugMode with
  | true =>
    have all : x.shows skills = fun _ => true := by
      funext row
      simp [shows, d]
    rw [all, List.filter_true, sum_rows, if_pos rfl]
  | false =>
    have direct : x.shows skills = fun row => !skills.isSkillIndirectHealing row.1 := by
      funext row
      simp [shows, d]
    rw [direct, sum_rows_filter HealEvent.skillId tally fun id => !skills.isSkillIndirectHealing id,
      if_neg Bool.false_ne_true, add_zero, add_comm]
    exact total_filter_add tally _ _

theorem total_getAgents (skillId : Option UInt32) :
    total (·.toTally) (x.getAgents skillId).entries = total tally (x.agentEvents skillId) := by
  rw [total_perm _ (x.entries_getAgents skillId), total_map]
  exact sum_rows HealEvent.agentId tally (x.agentEvents skillId)

end

theorem mem_getAgents {skillId : Option UInt32} {entry : AggregatedStatsEntry} :
    entry ∈ (x.getAgents skillId).entries ↔
      ∃ e ∈ x.agentEvents skillId, x.agentEntry (e.agentId, total tally
        ((x.agentEvents skillId).filter fun e' => e'.agentId = e.agentId)) = entry := by
  rw [(x.entries_getAgents skillId).mem_iff, List.mem_map]
  constructor
  · rintro ⟨row, here, rfl⟩
    obtain ⟨known, value⟩ := (mem_rows HealEvent.agentId tally).mp here
    obtain ⟨e, member, same⟩ := List.mem_map.mp known
    exact ⟨e, member, by rw [same, ← value]⟩
  · rintro ⟨e, member, rfl⟩
    exact ⟨_, (mem_rows HealEvent.agentId tally).mpr ⟨List.mem_map_of_mem member, rfl⟩, rfl⟩

theorem nodup_getAgents (skillId : Option UInt32) :
    ((x.getAgents skillId).entries.map (·.id)).Nodup := by
  rw [((x.entries_getAgents skillId).map (·.id)).nodup_iff, List.map_map]
  exact nodup_keys HealEvent.agentId tally (x.agentEvents skillId)

def single : AggregatedStats where
  mySourceData :=
    { enteredCombatTime := 1000
      lastDamageEvent := 3000
      events := [⟨2000, 50, 7, 5, false, false⟩]
      agents := (∅ : Std.ExtTreeMap UInt64 HealedAgent).insert 7
        ⟨70, utf8 "Zarwae", utf8 ":Zarwae.1234", 1, false, true, 4, 5⟩ }
  myOptions := {}
  myDebugMode := false

def several : AggregatedStats where
  mySourceData :=
    { subGroup := 1
      enteredCombatTime := 1000
      lastDamageEvent := 9000
      events := [⟨2000, 50, 7, 5, false, false⟩, ⟨3000, 20, 8, 6, true, false⟩,
        ⟨4000, 30, 9, 6, false, true⟩, ⟨5000, 10, 7, 6, false, false⟩,
        ⟨6000, 40, 10, 5, false, false⟩, ⟨9500, 60, 8, 4, false, false⟩]
      agents := ((((∅ : Std.ExtTreeMap UInt64 HealedAgent).insert 7
        ⟨70, utf8 "Zarwae", utf8 ":Zarwae.1234", 1, false, true, 4, 5⟩).insert 8
        ⟨80, utf8 "Mirr", utf8 ":Mirr.5678", 1, false, true, 1, 0⟩).insert 9
        ⟨90, utf8 "Odun", utf8 ":Odun.9012", 2, false, true, 2, 61⟩).insert 10
        ⟨100, utf8 "Clone", [], 1, true, false, 0, 0⟩ }
  myOptions := { excludeBarrierGeneration := false }
  myDebugMode := false

/-- Every view of the same events adds up to the same, and the view by agents
has one row for each agent. -/
theorem conservation (debug : x.myDebugMode = false) (skills skills' : SkillTable) :
    let agents := (x.getAgents none).entries
    total (·.toTally) agents = sums x.included ∧
    total (·.toTally) (x.getSkills skills none).entries = sums x.included ∧
    x.getTotal skills' = sums x.included ∧
    (∀ entry ∈ agents, entry.toTally = sums (x.included.filter (·.agentId = entry.id))) ∧
    (∀ agentId, (∃ entry ∈ agents, entry.id = agentId) ↔ ∃ e ∈ x.included, e.agentId = agentId) ∧
    (agents.map (·.id)).Nodup := by
  have skillsTotal (skills : SkillTable) :
      total (·.toTally) (x.getSkills skills none).entries = sums x.included := by
    rw [total_getSkills, skillEvents_none, debug, if_neg Bool.false_ne_true, add_zero, total_tally]
  refine ⟨?_, skillsTotal skills, skillsTotal skills', ?_, ?_, x.nodup_getAgents none⟩
  · rw [total_getAgents, agentEvents_none, total_tally]
  · intro entry here
    obtain ⟨e, member, rfl⟩ := x.mem_getAgents.mp here
    rw [← total_tally, ← agentEvents_none]
    rfl
  · intro agentId
    constructor
    · rintro ⟨entry, here, rfl⟩
      obtain ⟨e, member, rfl⟩ := x.mem_getAgents.mp here
      exact ⟨e, x.agentEvents_none ▸ member, rfl⟩
    · rintro ⟨e, member, rfl⟩
      exact ⟨_, x.mem_getAgents.mpr ⟨e, x.agentEvents_none.symm ▸ member, rfl⟩, rfl⟩

theorem conservation_several :
    total (·.toTally) (several.getAgents none).entries = ⟨110, 4, 20⟩ ∧
      several.getTotal {} = ⟨110, 4, 20⟩ := by
  obtain ⟨agents, -, skills, -⟩ := several.conservation rfl {} {}
  have sum : sums several.included = ⟨110, 4, 20⟩ := by decide
  exact ⟨agents.trans sum, skills.trans sum⟩

end AggregatedStats

end ArcdpsHealing.Stats
