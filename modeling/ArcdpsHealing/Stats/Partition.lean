import ArcdpsHealing.Stats.GroupTotals

namespace ArcdpsHealing.Stats

open Arcdps Lib Processor Settings

namespace AggregatedStats

variable (x : AggregatedStats)

def excludingKinds (healing barrierGeneration : Bool) : AggregatedStats :=
  { x with myOptions := { x.myOptions with excludeHealing := healing
                                           excludeBarrierGeneration := barrierGeneration } }

def excludingStates (downed nonDowned : Bool) : AggregatedStats :=
  { x with myOptions := { x.myOptions with excludeAgainstDowned := downed
                                           excludeAgainstNonDowned := nonDowned } }

def excludingGroups (group offGroup offSquad : Bool) : AggregatedStats :=
  { x with myOptions := { x.myOptions with excludeGroup := group, excludeOffGroup := offGroup
                                           excludeOffSquad := offSquad } }

inductive Place
  | group | offGroup | offSquad
  deriving DecidableEq

def place (agent : HealedAgent) : Place :=
  if agent.subgroup = x.mySourceData.subGroup then .group
  else if agent.subgroup = 0 then .offSquad
  else .offGroup

theorem filterInternal_place (w : HealWindowOptions) (mapped : w.excludeUnmapped = true)
    (agent : Option HealedAgent) (group offGroup offSquad : Bool) :
    x.filterInternal agent { w with excludeGroup := group, excludeOffGroup := offGroup
                                    excludeOffSquad := offSquad } =
      (x.filterInternal agent { w with excludeGroup := false, excludeOffGroup := false
                                       excludeOffSquad := false } ||
        match agent.map x.place with
        | some .group => group
        | some .offGroup => offGroup
        | some .offSquad => offSquad
        | none => true) := by
  cases agent with
  | none => simp [filterInternal, mapped]
  | some agent =>
    simp only [filterInternal, mapped, Option.map_some, place]
    grind

def includes (e : HealEvent) : Bool := !x.filter e.agentId && x.Passes e

theorem included_includes : x.included = x.mySourceData.events.filter x.includes :=
  List.filter_filter ..

theorem passes_excludingKinds (healing barrierGeneration : Bool) (e : HealEvent) :
    (x.excludingKinds healing barrierGeneration).Passes e ↔
      (x.excludingKinds false false).Passes e ∧
        (if e.isBarrierGeneration = true then barrierGeneration else healing) = false := by
  have passes (healing barrierGeneration : Bool) :
      (x.excludingKinds healing barrierGeneration).Passes e ↔ e.time ≤ x.getCombatEnd ∧
        ¬ (e.isAgainstDowned = true ∧ x.myOptions.excludeAgainstDowned = true) ∧
        ¬ (e.isAgainstDowned = false ∧ x.myOptions.excludeAgainstNonDowned = true) ∧
        ¬ (e.isBarrierGeneration = true ∧ barrierGeneration = true) ∧
        ¬ (e.isBarrierGeneration = false ∧ healing = true) ∧
        (x.getIncludedSkills = [] ∨ e.skillId ∈ x.getIncludedSkills) := Iff.rfl
  rw [passes, passes]
  cases e.isBarrierGeneration with
  | true => cases barrierGeneration <;> simp
  | false => cases healing <;> simp

theorem passes_excludingStates (downed nonDowned : Bool) (e : HealEvent) :
    (x.excludingStates downed nonDowned).Passes e ↔
      (x.excludingStates false false).Passes e ∧
        (if e.isAgainstDowned = true then downed else nonDowned) = false := by
  have passes (downed nonDowned : Bool) :
      (x.excludingStates downed nonDowned).Passes e ↔ e.time ≤ x.getCombatEnd ∧
        ¬ (e.isAgainstDowned = true ∧ downed = true) ∧
        ¬ (e.isAgainstDowned = false ∧ nonDowned = true) ∧
        ¬ (e.isBarrierGeneration = true ∧ x.myOptions.excludeBarrierGeneration = true) ∧
        ¬ (e.isBarrierGeneration = false ∧ x.myOptions.excludeHealing = true) ∧
        (x.getIncludedSkills = [] ∨ e.skillId ∈ x.getIncludedSkills) := Iff.rfl
  rw [passes, passes]
  cases e.isAgainstDowned with
  | true => cases downed <;> simp
  | false => cases nonDowned <;> simp

theorem includes_excludingKinds (healing barrierGeneration : Bool) (e : HealEvent) :
    (x.excludingKinds healing barrierGeneration).includes e =
      ((x.excludingKinds false false).includes e &&
        !if e.isBarrierGeneration = true then barrierGeneration else healing) := by
  have shown : (x.excludingKinds healing barrierGeneration).filter e.agentId =
      (x.excludingKinds false false).filter e.agentId := rfl
  rw [Bool.eq_iff_iff]
  simp only [includes, shown, Bool.and_eq_true, decide_eq_true_eq, Bool.not_eq_true',
    x.passes_excludingKinds healing barrierGeneration e]
  tauto

theorem includes_excludingStates (downed nonDowned : Bool) (e : HealEvent) :
    (x.excludingStates downed nonDowned).includes e =
      ((x.excludingStates false false).includes e &&
        !if e.isAgainstDowned = true then downed else nonDowned) := by
  have shown : (x.excludingStates downed nonDowned).filter e.agentId =
      (x.excludingStates false false).filter e.agentId := rfl
  rw [Bool.eq_iff_iff]
  simp only [includes, shown, Bool.and_eq_true, decide_eq_true_eq, Bool.not_eq_true',
    x.passes_excludingStates downed nonDowned e]
  tauto

theorem includes_excludingGroups (mapped : x.myOptions.excludeUnmapped = true)
    (group offGroup offSquad : Bool) (e : HealEvent) :
    (x.excludingGroups group offGroup offSquad).includes e =
      ((x.excludingGroups false false false).includes e &&
        !match x.mySourceData.agents[e.agentId]?.map x.place with
        | some .group => group
        | some .offGroup => offGroup
        | some .offSquad => offSquad
        | none => true) := by
  have hidden : (x.excludingGroups group offGroup offSquad).filter e.agentId = _ :=
    x.filterInternal_place x.myOptions mapped _ group offGroup offSquad
  have passes : decide ((x.excludingGroups group offGroup offSquad).Passes e) =
      decide ((x.excludingGroups false false false).Passes e) := rfl
  simp only [includes, passes, hidden, Bool.not_or, Bool.and_right_comm]
  rfl

theorem total_of_divided {events : List HealEvent} {P Q R : HealEvent → Bool}
    (divided : ∀ e, P e = (Q e || R e)) (disjoint : ∀ e, (Q e && R e) = false) :
    total tally (events.filter P) =
      total tally (events.filter Q) + total tally (events.filter R) := by
  rw [← total_filter_add tally Q (events.filter P), List.filter_filter, List.filter_filter]
  congr 2
  · apply List.filter_congr
    intro e _
    rw [divided]
    cases Q e <;> rfl
  · apply List.filter_congr
    intro e _
    rw [divided]
    have alone := disjoint e
    revert alone
    cases Q e <;> cases R e <;> simp

theorem total_of_halves {events : List HealEvent} (shows : Bool → Bool → HealEvent → Bool)
    (flag : HealEvent → Bool)
    (hides : ∀ first second e, shows first second e =
      (shows false false e && !if flag e = true then first else second)) :
    total tally (events.filter (shows false false)) =
      total tally (events.filter (shows true false)) +
        total tally (events.filter (shows false true)) := by
  apply total_of_divided
  · intro e
    rw [hides true false, hides false true]
    cases flag e <;> simp
  · intro e
    rw [hides true false, hides false true]
    cases flag e <;> simp

theorem getTotal_includes (debug : x.myDebugMode = false) (skills : SkillTable) :
    x.getTotal skills = total tally (x.mySourceData.events.filter x.includes) := by
  rw [x.getTotal_of_not_debug debug, included_includes]

section Totals

variable (debug : x.myDebugMode = false) (skills : SkillTable)

include debug

theorem total_excludingKinds : (x.excludingKinds false false).getTotal skills =
    (x.excludingKinds true false).getTotal skills +
      (x.excludingKinds false true).getTotal skills := by
  have each (healing barrierGeneration : Bool) :=
    (x.excludingKinds healing barrierGeneration).getTotal_includes debug skills
  rw [each, each, each]
  rw [add_comm]
  exact total_of_halves
    (fun barrierGeneration healing => (x.excludingKinds healing barrierGeneration).includes)
    HealEvent.isBarrierGeneration fun barrierGeneration healing =>
      x.includes_excludingKinds healing barrierGeneration

theorem total_excludingStates : (x.excludingStates false false).getTotal skills =
    (x.excludingStates true false).getTotal skills +
      (x.excludingStates false true).getTotal skills := by
  have each (downed nonDowned : Bool) :=
    (x.excludingStates downed nonDowned).getTotal_includes debug skills
  rw [each, each, each]
  exact total_of_halves (fun downed nonDowned => (x.excludingStates downed nonDowned).includes)
    HealEvent.isAgainstDowned x.includes_excludingStates

theorem total_excludingGroups (mapped : x.myOptions.excludeUnmapped = true) :
    (x.excludingGroups false false false).getTotal skills =
      (x.excludingGroups false true true).getTotal skills +
        (x.excludingGroups true false true).getTotal skills +
        (x.excludingGroups true true false).getTotal skills := by
  -- Nobody is in two places, and who is mapped is somewhere.
  have each (group offGroup offSquad : Bool) :=
    (x.excludingGroups group offGroup offSquad).getTotal_includes debug skills
  have hides := x.includes_excludingGroups mapped
  have unplaced (e : HealEvent) (none : x.mySourceData.agents[e.agentId]?.map x.place = none) :
      (x.excludingGroups false false false).includes e = false := by
    rw [hides, none]
    simp
  have grouped : total tally (x.mySourceData.events.filter
        (x.excludingGroups false false false).includes) =
      total tally (x.mySourceData.events.filter (x.excludingGroups false true true).includes) +
        total tally (x.mySourceData.events.filter
          (x.excludingGroups true false false).includes) := by
    apply total_of_divided
    · intro e
      rw [hides false true true, hides true false false]
      cases here : x.mySourceData.agents[e.agentId]?.map x.place with
      | none => simp [unplaced e here]
      | some place => cases place <;> simp
    · intro e
      rw [hides false true true, hides true false false]
      cases x.mySourceData.agents[e.agentId]?.map x.place with
      | none => simp
      | some place => cases place <;> simp
  have elsewhere : total tally (x.mySourceData.events.filter
        (x.excludingGroups true false false).includes) =
      total tally (x.mySourceData.events.filter (x.excludingGroups true false true).includes) +
        total tally (x.mySourceData.events.filter
          (x.excludingGroups true true false).includes) := by
    apply total_of_divided
    · intro e
      rw [hides true false false, hides true false true, hides true true false]
      cases here : x.mySourceData.agents[e.agentId]?.map x.place with
      | none => simp
      | some place => cases place <;> simp
    · intro e
      rw [hides true false true, hides true true false]
      cases x.mySourceData.agents[e.agentId]?.map x.place with
      | none => simp
      | some place => cases place <;> simp
  rw [each, each, each, each, add_assoc]
  exact grouped.trans (congrArg _ elsewhere)

/-- The filters by kind, by state and, for agents that are mapped, by place divide
the total between them. -/
theorem exclusions_partition :
    (x.excludingKinds false false).getTotal skills =
        (x.excludingKinds true false).getTotal skills +
          (x.excludingKinds false true).getTotal skills ∧
    (x.excludingStates false false).getTotal skills =
        (x.excludingStates true false).getTotal skills +
          (x.excludingStates false true).getTotal skills ∧
    (x.myOptions.excludeUnmapped = true →
      (x.excludingGroups false false false).getTotal skills =
        (x.excludingGroups false true true).getTotal skills +
          (x.excludingGroups true false true).getTotal skills +
          (x.excludingGroups true true false).getTotal skills) :=
  ⟨x.total_excludingKinds debug skills, x.total_excludingStates debug skills,
    x.total_excludingGroups debug skills⟩

end Totals

theorem exclusions_partition_several :
    (several.excludingKinds false false).getTotal {} =
        (several.excludingKinds true false).getTotal {} +
          (several.excludingKinds false true).getTotal {} ∧
    (several.excludingGroups false false false).getTotal {} =
        (several.excludingGroups false true true).getTotal {} +
          (several.excludingGroups true false true).getTotal {} +
          (several.excludingGroups true true false).getTotal {} := by
  obtain ⟨kinds, -, groups⟩ := several.exclusions_partition rfl {}
  exact ⟨kinds, groups rfl⟩

end AggregatedStats

end ArcdpsHealing.Stats
