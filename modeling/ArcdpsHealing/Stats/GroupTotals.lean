import ArcdpsHealing.Stats.Sizes
import ArcdpsHealing.Stats.Snapshot

namespace ArcdpsHealing.Stats

open Arcdps Lib Processor Settings

inductive GroupFilter
  | group | squad | allExcludingMinions | all
  deriving DecidableEq

namespace GroupFilter

def values : List GroupFilter := [group, squad, allExcludingMinions, all]

/-- `GROUP_FILTER_STRING`. -/
def string : GroupFilter → CString
  | group => utf8 "小隊"
  | squad => utf8 "團隊"
  | allExcludingMinions => utf8 "所有 (排除召喚物)"
  | all => utf8 "所有 (包括召喚物)"

/-- What the `switch` over the filters assigns, over some other options. -/
def options (w : HealWindowOptions) : GroupFilter → HealWindowOptions
  | group =>
    { w with excludeGroup := false, excludeOffGroup := true, excludeOffSquad := true
             excludeMinions := true, excludeUnmapped := true }
  | squad =>
    { w with excludeGroup := false, excludeOffGroup := false, excludeOffSquad := true
             excludeMinions := true, excludeUnmapped := true }
  | allExcludingMinions =>
    { w with excludeGroup := false, excludeOffGroup := false, excludeOffSquad := false
             excludeMinions := true, excludeUnmapped := true }
  | all =>
    { w with excludeGroup := false, excludeOffGroup := false, excludeOffSquad := false
             excludeMinions := false, excludeUnmapped := true }

end GroupFilter

namespace AggregatedStats

variable (x : AggregatedStats)

/-- One event in the loop of `GetGroupFilterTotals`. `fakeOptions` starts from the
defaults. -/
def addToGroups (totals : GroupFilter → Tally) (e : HealEvent) : GroupFilter → Tally :=
  if x.counts e = false then totals
  else if x.filterSkill e.skillId = true then totals
  else fun f =>
    if x.filterInternal x.mySourceData.agents[e.agentId]? (f.options {}) = false then
      totals f + tally e
    else totals f

def groupEntry (row : GroupFilter × Tally) : AggregatedStatsEntry :=
  { row.2 with id := 0, name := row.1.string, timeInCombat := x.getCombatTime }

/-- The rows are added while they are empty, so the highest is found at the end. -/
def getGroupFilterTotals : AggregatedVector :=
  let totals := x.mySourceData.events.foldl x.addToGroups fun _ => 0
  let entries := GroupFilter.values.map fun f => x.groupEntry (f, totals f)
  let added := GroupFilter.values.foldl (fun v f => v.add (x.groupEntry (f, 0)))
    ({} : AggregatedVector)
  { entries := entries
    highestHealing := entries.foldl (fun highest entry => max highest entry.healing)
      added.highestHealing }

def withGroupFilter (f : GroupFilter) : AggregatedStats :=
  { x with myOptions := f.options x.myOptions }

theorem getTotal_of_not_debug (debug : x.myDebugMode = false) (skills : SkillTable) :
    x.getTotal skills = total tally x.included := by
  unfold getTotal
  rw [total_getSkills, skillEvents_none, debug, if_neg Bool.false_ne_true, add_zero]

theorem filterInternal_options (agent : Option HealedAgent) (f : GroupFilter)
    (w : HealWindowOptions) :
    x.filterInternal agent (f.options w) = x.filterInternal agent (f.options {}) := by
  cases f <;> rfl

theorem foldl_addToGroups (events : List HealEvent) (totals : GroupFilter → Tally)
    (f : GroupFilter) : (events.foldl x.addToGroups totals) f = totals f + total tally
      ((events.filter (x.Passes ·)).filter fun e => !(x.withGroupFilter f).filter e.agentId) := by
  induction events generalizing totals with
  | nil => simp
  | cons e events ih =>
    rw [List.foldl_cons, ih]
    have passes := x.counts_and e
    have shown : (x.withGroupFilter f).filter e.agentId =
        x.filterInternal x.mySourceData.agents[e.agentId]? (f.options {}) :=
      x.filterInternal_options _ f x.myOptions
    unfold addToGroups
    cases counts : x.counts e with
    | false => simp [counts, ← passes]
    | true =>
      cases skill : x.filterSkill e.skillId with
      | true => simp [counts, skill, ← passes]
      | false =>
        cases agent : (x.withGroupFilter f).filter e.agentId with
        | true => simp [counts, skill, ← passes, ← shown, agent]
        | false => simp [counts, skill, ← passes, ← shown, agent, add_assoc]

theorem included_withGroupFilter (f : GroupFilter) : (x.withGroupFilter f).included =
    (x.mySourceData.events.filter (x.Passes ·)).filter
      fun e => !(x.withGroupFilter f).filter e.agentId := by
  cases f <;> rfl

theorem filter_mono {f g : GroupFilter} (later : [f, g].Sublist GroupFilter.values)
    {agentId : UInt64} (shown : (x.withGroupFilter f).filter agentId = false) :
    (x.withGroupFilter g).filter agentId = false := by
  revert shown
  simp only [filter, filterInternal, withGroupFilter]
  cases x.mySourceData.agents[agentId]? with
  | none => cases f <;> exact nofun
  | some agent =>
    cases f <;> cases g <;> first | exact absurd later (by decide) | grind [GroupFilter.options]

theorem included_mono {f g : GroupFilter} (later : [f, g].Sublist GroupFilter.values) :
    (x.withGroupFilter f).included =
      (x.withGroupFilter g).included.filter fun e => !(x.withGroupFilter f).filter e.agentId := by
  rw [included_withGroupFilter, included_withGroupFilter, List.filter_filter, List.filter_filter,
    List.filter_filter]
  apply List.filter_congr
  intro e _
  cases shown : (x.withGroupFilter f).filter e.agentId with
  | true => rfl
  | false => simp [x.filter_mono later shown]

theorem getGroupFilterTotals_eq :
    x.getGroupFilterTotals.entries.map (·.toTally) =
      GroupFilter.values.map fun f => total tally (x.withGroupFilter f).included := by
  simp only [getGroupFilterTotals, List.map_map]
  apply List.map_congr_left
  intro f _
  rw [included_withGroupFilter]
  exact (x.foldl_addToGroups _ _ f).trans (zero_add _)

/-- The totals of the groups are those of four windows with other agent filters,
each of which shows at least as much as the one before. -/
theorem group_filter_totals (debug : x.myDebugMode = false) (skills : SkillTable) :
    let totals := x.getGroupFilterTotals.entries.map (·.toTally)
    totals = (GroupFilter.values.map fun f => (x.withGroupFilter f).getTotal skills) ∧
    (sizes x.mySourceData.events < 2 ^ 64 → x.mySourceData.events.length < 2 ^ 64 →
      totals.Pairwise fun a b => a.healing ≤ b.healing ∧ a.hits ≤ b.hits ∧
        a.barrierGeneration ≤ b.barrierGeneration) := by
  intro totals
  constructor
  · rw [show totals = _ from x.getGroupFilterTotals_eq]
    apply List.map_congr_left
    intro f _
    exact ((x.withGroupFilter f).getTotal_of_not_debug debug skills).symm
  · intro bounded few
    rw [show totals = _ from x.getGroupFilterTotals_eq, List.pairwise_map]
    rw [List.pairwise_iff_forall_sublist]
    intro f g later
    rw [x.included_mono later]
    have part : (x.withGroupFilter g).included.Sublist x.mySourceData.events :=
      List.filter_sublist.trans List.filter_sublist
    exact total_filter_le ((sizes_sublist part).trans_lt bounded) (part.length_le.trans_lt few) _

theorem group_filter_totals_several :
    let totals := several.getGroupFilterTotals.entries.map (·.toTally)
    totals = (GroupFilter.values.map fun f => (several.withGroupFilter f).getTotal {}) ∧
    totals.Pairwise fun a b => a.healing ≤ b.healing ∧ a.hits ≤ b.hits ∧
      a.barrierGeneration ≤ b.barrierGeneration :=
  have both := several.group_filter_totals rfl {}
  ⟨both.1, both.2 (by decide) (by decide)⟩

end AggregatedStats

end ArcdpsHealing.Stats
