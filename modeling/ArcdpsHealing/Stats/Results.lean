import ArcdpsHealing.Stats.Details
import ArcdpsHealing.Stats.Sorted

namespace ArcdpsHealing.Stats

open Arcdps Lib Processor Settings

structure AggregatedVector.SortedRows (v : AggregatedVector) (sortOrder : Enumeration)
    (rows : List AggregatedStatsEntry) : Prop where
  perm : v.entries.Perm rows
  ordered : v.entries.Pairwise (InOrder sortOrder)

namespace AggregatedStats

variable (x : AggregatedStats) (skills : SkillTable)

def agentRows (skillId : Option UInt32) : List AggregatedStatsEntry :=
  (rows HealEvent.agentId tally (x.agentEvents skillId)).map x.agentEntry

def skillRows (agentId : Option UInt64) : List AggregatedStatsEntry :=
  let indirect := total tally (indirect skills (x.skillEvents agentId))
  ((rows HealEvent.skillId tally (x.skillEvents agentId)).filter (x.shows skills)).map
      (x.skillEntry skills) ++
    if indirect ≠ 0 then [x.indirectEntry indirect] else []

theorem wellFormed_sort {v : AggregatedVector} (h : v.WellFormed) : (x.sort v).WellFormed :=
  h.perm (x.sort_perm v)

theorem ordered_sort {v : AggregatedVector} (h : v.WellFormed)
    (known : SortOrder.InRange x.myOptions.sortOrderChoice) :
    (x.sort v).entries.Pairwise (InOrder x.myOptions.sortOrderChoice) := by
  have sorted := (strictWeakOrder_sortsBefore x.myOptions.sortOrderChoice).pairwise_insertionSort
    v.entries
  refine sorted.imp_of_mem fun {left right} here there before => ?_
  have proper := (x.wellFormed_sort h).proper
  exact inOrder_of_sortsBefore known (proper left here) (proper right there) before

section Bounded

variable (bounded : sizes x.mySourceData.events < 2 ^ 64)

include bounded

theorem proper_tally {events : List HealEvent} (part : events.Sublist x.mySourceData.events) :
    (total tally events).barrierGeneration ≤ (total tally events).healing :=
  barrierGeneration_le_healing ((sizes_sublist part).trans_lt bounded)

theorem proper_rows {κ : Type} [DecidableEq κ] [Ord κ] [Std.TransOrd κ] [Std.LawfulEqOrd κ]
    (key : HealEvent → κ) {events : List HealEvent}
    (part : events.Sublist x.mySourceData.events) :
    ∀ row ∈ rows key tally events, row.2.barrierGeneration ≤ row.2.healing := by
  intro row member
  obtain ⟨-, value⟩ := (mem_rows key tally).mp member
  rw [value]
  exact x.proper_tally bounded (List.filter_sublist.trans part)

theorem wellFormed_agents (skillId : Option UInt32) :
    ((rows HealEvent.agentId tally (x.agentEvents skillId)).foldl
      (fun v row => v.add (x.agentEntry row)) ({} : AggregatedVector)).WellFormed :=
  .foldl_add _ _ AggregatedVector.wellFormed_empty
    (x.proper_rows bounded HealEvent.agentId List.filter_sublist)

theorem wellFormed_getAgents (skillId : Option UInt32) : (x.getAgents skillId).WellFormed :=
  x.wellFormed_sort (x.wellFormed_agents bounded skillId)

theorem sortedRows_getAgents (known : SortOrder.InRange x.myOptions.sortOrderChoice)
    (skillId : Option UInt32) :
    (x.getAgents skillId).SortedRows x.myOptions.sortOrderChoice (x.agentRows skillId) :=
  ⟨x.entries_getAgents skillId, x.ordered_sort (x.wellFormed_agents bounded skillId) known⟩

omit bounded in
theorem wellFormed_foldl_addSkill {rows : List (UInt32 × Tally)}
    (proper : ∀ row ∈ rows, row.2.barrierGeneration ≤ row.2.healing) {v : AggregatedVector}
    (h : v.WellFormed) (t : Tally) : (rows.foldl (x.addSkill skills) (v, t)).1.WellFormed := by
  induction rows generalizing v t with
  | nil => exact h
  | cons row rows ih =>
    have here : (v.add (x.skillEntry skills row)).WellFormed := h.add (proper row (.head _))
    have rest := fun row member => proper row (.tail _ member)
    rw [List.foldl_cons, addSkill]
    split
    · split
      · exact ih rest h _
      · exact ih rest here _
    · exact ih rest here _

theorem wellFormed_skills (agentId : Option UInt64) :
    let acc := (rows HealEvent.skillId tally (x.skillEvents agentId)).foldl
      (x.addSkill skills) ({}, 0)
    (if acc.2 ≠ 0 then acc.1.add (x.indirectEntry acc.2) else acc.1).WellFormed := by
  intro acc
  have part : (x.skillEvents agentId).Sublist x.mySourceData.events := List.filter_sublist
  have shown : acc.1.WellFormed :=
    x.wellFormed_foldl_addSkill skills (x.proper_rows bounded HealEvent.skillId part)
      AggregatedVector.wellFormed_empty 0
  split
  · have indirect : acc.2 = total tally (indirect skills (x.skillEvents agentId)) := by
      have added := (x.foldl_addSkill skills
        (rows HealEvent.skillId tally (x.skillEvents agentId)) {} 0).2
      rw [sum_rows_filter HealEvent.skillId tally skills.isSkillIndirectHealing, zero_add] at added
      exact added
    rw [indirect]
    exact shown.add (x.proper_tally bounded (List.filter_sublist.trans part))
  · exact shown

theorem wellFormed_getSkills (agentId : Option UInt64) :
    (x.getSkills skills agentId).WellFormed :=
  x.wellFormed_sort (x.wellFormed_skills skills bounded agentId)

theorem sortedRows_getSkills (known : SortOrder.InRange x.myOptions.sortOrderChoice)
    (agentId : Option UInt64) : (x.getSkills skills agentId).SortedRows
      x.myOptions.sortOrderChoice (x.skillRows skills agentId) :=
  ⟨x.entries_getSkills skills agentId,
    x.ordered_sort (x.wellFormed_skills skills bounded agentId) known⟩

theorem wellFormed_getGroupFilterTotals : x.getGroupFilterTotals.WellFormed := by
  obtain ⟨-, upper, reached⟩ := AggregatedVector.foldl_max x.getGroupFilterTotals.entries 0
  refine ⟨fun entry member => ?_, upper, reached⟩
  obtain ⟨f, -, rfl⟩ := List.mem_map.mp member
  change ((x.mySourceData.events.foldl x.addToGroups fun _ => 0) f).barrierGeneration ≤
    ((x.mySourceData.events.foldl x.addToGroups fun _ => 0) f).healing
  rw [x.foldl_addToGroups, zero_add]
  exact x.proper_tally bounded (List.filter_sublist.trans List.filter_sublist)

theorem wellFormed_getStats (dataSource : Enumeration) :
    (x.getStats skills dataSource).WellFormed := by
  unfold getStats
  split
  · exact x.wellFormed_getSkills skills bounded none
  split
  · exact x.wellFormed_getAgents bounded none
  · exact x.wellFormed_getGroupFilterTotals bounded

theorem wellFormed_getDetails (dataSource : Enumeration) (id : UInt64) :
    (x.getDetails skills dataSource id).WellFormed := by
  unfold getDetails
  split
  · exact x.wellFormed_getAgents bounded _
  · exact x.wellFormed_getSkills skills bounded _

end Bounded

section Total

def debugSizes (events : List HealEvent) : Nat := sizes events + sizes (indirect skills events)

def OverflowsAlike : Prop :=
  let healing := debugSizes skills (x.included.filter fun e => !e.isBarrierGeneration)
  let barrier := debugSizes skills (x.included.filter (·.isBarrierGeneration))
  healing + barrier < 2 ^ 64 ∨ 2 ^ 64 ≤ healing ∨ 2 ^ 64 ≤ barrier

instance : Decidable (x.OverflowsAlike skills) := inferInstanceAs (Decidable (_ ∨ _ ∨ _))

theorem proper_getTotal_iff (bounded : sizes x.mySourceData.events < 2 ^ 64) :
    (x.getTotal skills).barrierGeneration ≤ (x.getTotal skills).healing ↔
      (x.myDebugMode = true → x.OverflowsAlike skills) := by
  -- The total is one of rows that are well formed each; in debug mode it can still wrap.
  have value : x.getTotal skills = total tally x.included +
      if x.myDebugMode = true then total tally (indirect skills x.included) else 0 := by
    unfold getTotal
    rw [total_getSkills, skillEvents_none]
  have part : x.included.Sublist x.mySourceData.events :=
    List.filter_sublist.trans List.filter_sublist
  have small := (sizes_sublist part).trans_lt bounded
  cases debug : x.myDebugMode with
  | false =>
    rw [value, debug, if_neg Bool.false_ne_true, add_zero]
    exact iff_of_true (barrierGeneration_le_healing small) nofun
  | true =>
    have again : sizes (indirect skills x.included) ≤ sizes x.included :=
      sizes_sublist List.filter_sublist
    have own := sizes_filter_add x.included (·.isBarrierGeneration)
    have own' := sizes_filter_add (indirect skills x.included) (·.isBarrierGeneration)
    rw [value, debug, if_pos rfl, UInt64.le_iff_toNat_le, Tally.barrierGeneration_add,
      Tally.healing_add, UInt64.toNat_add, UInt64.toNat_add, healing_total, healing_total,
      barrierGeneration_total, barrierGeneration_total]
    have inside (P : HealEvent → Bool) :
        (indirect skills x.included).filter P = indirect skills (x.included.filter P) :=
      List.filter_comm ..
    rw [inside, inside] at own'
    simp only [OverflowsAlike, debugSizes, barrierSizes, inside, forall_const]
    omega

end Total

end AggregatedStats

namespace AggregatedStatsCollection

variable (c : AggregatedStatsCollection) (skills : SkillTable)

def peerRows : List AggregatedStatsEntry := c.peerStates.toList.map (c.peerEntry skills)

/-- What every query is to return. -/
structure ResultsWellFormed : Prop where
  stats : ∀ dataSource, (c.getStats skills dataSource).WellFormed
  details : ∀ dataSource id, (c.getDetails skills dataSource id).WellFormed
  totals : c.getGroupFilterTotals.WellFormed
  byAgent : ∀ skillId, (c.localState.getAgents skillId).SortedRows c.mOptions.sortOrderChoice
    (c.localState.agentRows skillId)
  bySkill : ∀ agentId, (c.localState.getSkills skills agentId).SortedRows
    c.mOptions.sortOrderChoice (c.localState.skillRows skills agentId)
  byPeer : (c.peersOutgoing skills).SortedRows c.mOptions.sortOrderChoice (c.peerRows skills)
  opened : ∀ id player data, c.peerStates[id]? = some (player, data) →
    (c.getDetails skills DataSource.peersOutgoing id).SortedRows c.mOptions.sortOrderChoice
      ((c.stats data).skillRows skills none)

variable {c}

theorem getStats_peersOutgoing :
    c.getStats skills DataSource.peersOutgoing = c.peersOutgoing skills := rfl

theorem getDetails_peersOutgoing {id : UInt64} {player : HealedAgent} {data : HealingStats}
    (here : c.peerStates[id]? = some (player, data)) :
    c.getDetails skills DataSource.peersOutgoing id = (c.stats data).getSkills skills none := by
  simp only [getDetails, here]
  rfl

theorem mem_toList {row : UInt64 × HealedAgent × HealingStats} :
    row ∈ c.peerStates.toList ↔ c.peerStates[row.1]? = some row.2 :=
  Std.ExtTreeMap.mem_toList_iff_getElem?_eq_some

theorem toTally_peerEntry (row : UInt64 × HealedAgent × HealingStats) :
    (c.peerEntry skills row).toTally = (c.stats row.2.2).getTotal skills := rfl

theorem perm_peersOutgoing : (c.peersOutgoing skills).entries.Perm (c.peerRows skills) := by
  refine (c.localState.sort_perm _).trans ?_
  rw [entries_foldl]
  exact List.Perm.refl _

/-- Every query returns what it should just when, in debug mode, the totals of the
peers overflow as one. -/
theorem results_wellFormed_iff (known : SortOrder.InRange c.mOptions.sortOrderChoice)
    (bounded : ∀ (id : UInt64) (player : HealedAgent) (data : HealingStats),
      c.peerStates[id]? = some (player, data) → sizes data.events < 2 ^ 64) :
    c.ResultsWellFormed skills ↔ (c.mDebugMode = true →
      ∀ (id : UInt64) (player : HealedAgent) (data : HealingStats),
        c.peerStates[id]? = some (player, data) → (c.stats data).OverflowsAlike skills) := by
  have own : sizes c.localState.mySourceData.events < 2 ^ 64 := by
    have here := Std.ExtTreeMap.getElem?_eq_some_getElem c.known
    exact bounded c.localUniqueId _ _ here
  have each {id : UInt64} {player : HealedAgent} {data : HealingStats}
      (here : c.peerStates[id]? = some (player, data)) :=
    (c.stats data).proper_getTotal_iff skills (bounded id player data here)
  constructor
  · intro h debug id player data here
    refine (each here).mp ?_ debug
    have row : c.peerEntry skills (id, player, data) ∈ c.peerRows skills :=
      List.mem_map_of_mem (mem_toList.mpr here)
    have shown : (c.peersOutgoing skills).WellFormed := h.stats DataSource.peersOutgoing
    have proper := shown.proper _ ((perm_peersOutgoing skills).mem_iff.mpr row)
    rwa [toTally_peerEntry] at proper
  · intro alike
    have proper (row : UInt64 × HealedAgent × HealingStats) (member : row ∈ c.peerStates.toList) :
        (c.peerEntry skills row).barrierGeneration ≤ (c.peerEntry skills row).healing := by
      rw [toTally_peerEntry]
      exact (each (mem_toList.mp member)).mpr fun debug => alike debug _ _ _ (mem_toList.mp member)
    have vector : (c.peerStates.toList.foldl (fun v row => v.add (c.peerEntry skills row))
        ({} : AggregatedVector)).WellFormed :=
      .foldl_add _ _ AggregatedVector.wellFormed_empty proper
    have peers : (c.peersOutgoing skills).WellFormed := c.localState.wellFormed_sort vector
    refine ⟨fun dataSource => ?_, fun dataSource id => ?_, ?_, ?_, ?_, ?_, ?_⟩
    · unfold getStats
      split
      · exact c.localState.wellFormed_getStats skills own _
      · exact peers
    · unfold getDetails
      split
      · exact c.localState.wellFormed_getDetails skills own _ _
      · split
        · exact AggregatedVector.wellFormed_empty
        · rename_i player data here
          exact (c.stats data).wellFormed_getStats skills (bounded id player data here) _
    · exact c.localState.wellFormed_getGroupFilterTotals own
    · exact c.localState.sortedRows_getAgents own known
    · exact c.localState.sortedRows_getSkills skills own known
    · exact ⟨perm_peersOutgoing skills, c.localState.ordered_sort vector known⟩
    · intro id player data here
      rw [getDetails_peersOutgoing skills here]
      exact (c.stats data).sortedRows_getSkills skills (bounded id player data here) known none

def alone (data : HealingStats) (options : HealWindowOptions) (debugMode : Bool) :
    AggregatedStatsCollection where
  peerStates := (∅ : Std.ExtTreeMap UInt64 (HealedAgent × HealingStats)).insert 1
    (⟨70, utf8 "Zarwae", utf8 ":Zarwae.1234", 1, false, true, 4, 5⟩, data)
  localUniqueId := 1
  known := Std.ExtTreeMap.mem_insert_self
  mOptions := options
  mDebugMode := debugMode

theorem alone_peerStates {data data' : HealingStats} {options : HealWindowOptions}
    {debugMode : Bool} {id : UInt64} {player : HealedAgent}
    (here : (alone data options debugMode).peerStates[id]? = some (player, data')) :
    data' = data := by
  unfold alone at here
  rw [Std.ExtTreeMap.getElem?_insert] at here
  split at here
  · cases here
    rfl
  · simp at here

def paired (data peer : HealingStats) : AggregatedStatsCollection :=
  { alone data {} false with
    peerStates := (alone data {} false).peerStates.insert 2
      (⟨71, utf8 "Mirr", utf8 ":Mirr.5678", 1, false, true, 1, 0⟩, peer)
    known := Std.ExtTreeMap.mem_insert.mpr (.inr (alone data {} false).known) }

theorem results_wellFormed_paired :
    (paired AggregatedStats.several.mySourceData
      AggregatedStats.single.mySourceData).ResultsWellFormed .single := by
  refine (results_wellFormed_iff .single (by decide) fun id player data here => ?_).mpr nofun
  unfold paired at here
  rw [Std.ExtTreeMap.getElem?_insert] at here
  split at here
  · cases here
    decide
  · rw [alone_peerStates here]
    decide

def overflowing : HealingStats :=
  { AggregatedStats.single.mySourceData with
    events := [⟨2000, 4611686018427387904, 7, 5, false, false⟩,
      ⟨2000, 6917529027641081856, 7, 5, true, false⟩] }

/-- Counted twice, they add up to 2^62 of which 2^63 + 2^62 are barrier. -/
theorem results_overflowing :
    let c := alone overflowing { excludeBarrierGeneration := false } true
    SortOrder.InRange c.mOptions.sortOrderChoice ∧ sizes overflowing.events < 2 ^ 64 ∧
      ∃ entry ∈ (c.getStats .single DataSource.peersOutgoing).entries,
        entry.toTally = ⟨4611686018427387904, 4, 13835058055282163712⟩ ∧
          entry.healing < entry.barrierGeneration := by
  refine ⟨by decide, by decide, by decide⟩

end AggregatedStatsCollection

end ArcdpsHealing.Stats
