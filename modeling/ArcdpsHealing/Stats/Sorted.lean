import ArcdpsHealing.Lib.SortBy
import ArcdpsHealing.Lib.Word
import ArcdpsHealing.Stats.Collection

namespace ArcdpsHealing.Stats

open Arcdps Lib Processor Settings

def AggregatedStatsEntry.healSize (entry : AggregatedStatsEntry) : Nat :=
  entry.healing.toNat - entry.barrierGeneration.toNat

def InOrder (sortOrder : Enumeration) (left right : AggregatedStatsEntry) : Prop :=
  if sortOrder = SortOrder.ascendingAlphabetical then left.name ≤ right.name
  else if sortOrder = SortOrder.descendingAlphabetical then right.name ≤ left.name
  else if sortOrder = SortOrder.ascendingTotalOutgoingSize then left.healing ≤ right.healing
  else if sortOrder = SortOrder.descendingTotalOutgoingSize then right.healing ≤ left.healing
  else if sortOrder = SortOrder.ascendingHealSize then left.healSize ≤ right.healSize
  else if sortOrder = SortOrder.descendingHealSize then right.healSize ≤ left.healSize
  else if sortOrder = SortOrder.ascendingBarrierGenerationSize then
    left.barrierGeneration ≤ right.barrierGeneration
  else if sortOrder = SortOrder.descendingBarrierGenerationSize then
    right.barrierGeneration ≤ left.barrierGeneration
  else False

namespace AggregatedStats

theorem strictWeakOrder_sortsBefore (sortOrder : Enumeration) :
    StrictWeakOrder (sortsBefore sortOrder) := by
  unfold sortsBefore
  split
  · exact .of_key (·.name) (by simp)
  split
  · exact (StrictWeakOrder.of_key (·.name) (by simp)).flip
  split
  · exact .of_key (·.healing) (by simp)
  split
  · exact (StrictWeakOrder.of_key (·.healing) (by simp)).flip
  split
  · exact .of_key (fun entry => entry.healing - entry.barrierGeneration) (by simp)
  split
  · exact (StrictWeakOrder.of_key (fun entry => entry.healing - entry.barrierGeneration)
      (by simp)).flip
  split
  · exact .of_key (·.barrierGeneration) (by simp)
  split
  · exact (StrictWeakOrder.of_key (·.barrierGeneration) (by simp)).flip
  · exact .none

theorem inOrder_of_sortsBefore {sortOrder : Enumeration} (known : SortOrder.InRange sortOrder)
    {left right : AggregatedStatsEntry} (proper : left.barrierGeneration ≤ left.healing)
    (proper' : right.barrierGeneration ≤ right.healing)
    (h : sortsBefore sortOrder right left = false) : InOrder sortOrder left right := by
  -- The comparisons subtract without a bound where barrier is part of healing.
  have size {entry : AggregatedStatsEntry} (proper : entry.barrierGeneration ≤ entry.healing) :
      (entry.healing - entry.barrierGeneration).toNat = entry.healSize :=
    UInt64.toNat_sub_of_le _ _ proper
  rcases known.cases with rfl | rfl | rfl | rfl | rfl | rfl | rfl | rfl
  · exact of_decide_eq_false h
  · exact of_decide_eq_false h
  · exact UInt64.not_lt.mp (of_decide_eq_false h)
  · exact UInt64.not_lt.mp (of_decide_eq_false h)
  · have ordered : left.healing - left.barrierGeneration ≤
        right.healing - right.barrierGeneration := UInt64.not_lt.mp (of_decide_eq_false h)
    rw [UInt64.le_iff_toNat_le, size proper, size proper'] at ordered
    exact ordered
  · have ordered : right.healing - right.barrierGeneration ≤
        left.healing - left.barrierGeneration := UInt64.not_lt.mp (of_decide_eq_false h)
    rw [UInt64.le_iff_toNat_le, size proper, size proper'] at ordered
    exact ordered
  · exact UInt64.not_lt.mp (of_decide_eq_false h)
  · exact UInt64.not_lt.mp (of_decide_eq_false h)

end AggregatedStats

namespace AggregatedVector

structure WellFormed (v : AggregatedVector) : Prop where
  proper : ∀ entry ∈ v.entries, entry.barrierGeneration ≤ entry.healing
  upper : ∀ entry ∈ v.entries, entry.healing ≤ v.highestHealing
  reached : v.highestHealing = 0 ∨ ∃ entry ∈ v.entries, entry.healing = v.highestHealing

theorem wellFormed_empty : WellFormed {} := ⟨nofun, nofun, .inl rfl⟩

theorem foldl_max (entries : List AggregatedStatsEntry) (start : UInt64) :
    let highest := entries.foldl (fun highest entry => max highest entry.healing) start
    start ≤ highest ∧ (∀ entry ∈ entries, entry.healing ≤ highest) ∧
      (highest = start ∨ ∃ entry ∈ entries, entry.healing = highest) := by
  induction entries generalizing start with
  | nil => exact ⟨UInt64.le_refl _, nofun, .inl rfl⟩
  | cons entry entries ih =>
    obtain ⟨more, upper, reached⟩ := ih (max start entry.healing)
    refine ⟨?_, ?_, ?_⟩
    · exact UInt64.le_trans (le_max_of_le (UInt64.le_refl _) _) more
    · intro other member
      cases member with
      | head => exact UInt64.le_trans (le_max_iff_or.mpr (.inr (UInt64.le_refl _))) more
      | tail _ member => exact upper other member
    · rcases reached with same | ⟨other, member, same⟩
      · rw [List.foldl_cons, same]
        rcases UInt64.le_total start entry.healing with low | high
        · exact .inr ⟨entry, .head _, (max_eq_of_le low).symm⟩
        · exact .inl (max_eq_of_ge high)
      · exact .inr ⟨other, .tail _ member, same⟩

namespace WellFormed

variable {v : AggregatedVector}

theorem max_reached {highest healing : UInt64} {entries : List AggregatedStatsEntry}
    (reached : highest = 0 ∨ ∃ entry ∈ entries, entry.healing = highest)
    (here : ∃ entry ∈ entries, entry.healing = healing) :
    max highest healing = 0 ∨ ∃ entry ∈ entries, entry.healing = max highest healing := by
  rcases UInt64.le_total highest healing with more | less
  · rw [max_eq_of_le more]
    exact .inr here
  · rw [max_eq_of_ge less]
    exact reached

theorem add (h : v.WellFormed) {entry : AggregatedStatsEntry}
    (proper : entry.barrierGeneration ≤ entry.healing) : (v.add entry).WellFormed := by
  have old : v.highestHealing = 0 ∨
      ∃ e ∈ v.entries ++ [entry], e.healing = v.highestHealing := by
    refine h.reached.imp_right ?_
    rintro ⟨e, member, same⟩
    exact ⟨e, List.mem_append_left _ member, same⟩
  refine ⟨?_, ?_, max_reached old ⟨entry, List.mem_append_right _ (.head _), rfl⟩⟩
  · intro e member
    rcases List.mem_append.mp member with member | member
    · exact h.proper e member
    · cases List.mem_singleton.mp member
      exact proper
  · intro e member
    apply le_max_iff_or.mpr
    rcases List.mem_append.mp member with member | member
    · exact .inl (h.upper e member)
    · cases List.mem_singleton.mp member
      exact .inr (UInt64.le_refl _)

theorem foldl_add {α : Type} (f : α → AggregatedStatsEntry) (rows : List α) (h : v.WellFormed)
    (proper : ∀ row ∈ rows, (f row).barrierGeneration ≤ (f row).healing) :
    (rows.foldl (fun v row => v.add (f row)) v).WellFormed := by
  induction rows generalizing v with
  | nil => exact h
  | cons row rows ih =>
    exact ih (h.add (proper row (.head _))) fun row member => proper row (.tail _ member)

theorem perm (h : v.WellFormed) {entries : List AggregatedStatsEntry}
    (same : entries.Perm v.entries) : WellFormed { v with entries := entries } := by
  refine ⟨fun entry member => ?_, fun entry member => ?_, ?_⟩
  · exact h.proper entry (same.mem_iff.mp member)
  · exact h.upper entry (same.mem_iff.mp member)
  · simpa only [same.mem_iff] using h.reached

end WellFormed

end AggregatedVector

end ArcdpsHealing.Stats
