import ArcdpsHealing.Stats.Conservation
import Mathlib.Algebra.Order.BigOperators.Group.List
import Mathlib.Algebra.Order.Group.Nat

namespace ArcdpsHealing.Stats

open Arcdps Lib Processor Settings

def sizes (events : List HealEvent) : Nat := total (fun e => e.size.toNat) events

def barrierSizes (events : List HealEvent) : Nat := sizes (events.filter (·.isBarrierGeneration))

section

variable (events : List HealEvent)

@[simp] theorem sizes_nil : sizes [] = 0 := rfl

@[simp] theorem sizes_cons (e : HealEvent) : sizes (e :: events) = e.size.toNat + sizes events :=
  total_cons _ e events

theorem sizes_filter_add (P : HealEvent → Bool) :
    sizes (events.filter P) + sizes (events.filter fun e => !P e) = sizes events :=
  total_filter_add _ P events

variable {events} in
theorem sizes_sublist {part : List HealEvent} (h : part.Sublist events) :
    sizes part ≤ sizes events :=
  (h.map _).sum_le_sum fun _ _ => Nat.zero_le _

theorem barrierSizes_le : barrierSizes events ≤ sizes events := sizes_sublist List.filter_sublist

theorem healing_total : (total tally events).healing.toNat = sizes events % 2 ^ 64 := by
  induction events with
  | nil => rfl
  | cons e events ih =>
    rw [total_cons, Tally.healing_add, UInt64.toNat_add, ih, sizes_cons]
    simp [tally]

theorem barrierGeneration_total :
    (total tally events).barrierGeneration.toNat = barrierSizes events % 2 ^ 64 := by
  induction events with
  | nil => rfl
  | cons e events ih =>
    rw [total_cons, Tally.barrierGeneration_add, UInt64.toNat_add, ih]
    cases barrier : e.isBarrierGeneration with
    | true => simp [tally, barrierSizes, barrier]
    | false => simp [tally, barrierSizes, barrier]

theorem hits_total : (total tally events).hits.toNat = events.length % 2 ^ 64 := by
  rw [total_tally]
  exact UInt64.toNat_ofNat'

end

section Ordered

variable {events : List HealEvent} (bounded : sizes events < 2 ^ 64)

include bounded

theorem healing_total_of_lt : (total tally events).healing.toNat = sizes events := by
  rw [healing_total, Nat.mod_eq_of_lt bounded]

theorem barrierGeneration_total_of_lt :
    (total tally events).barrierGeneration.toNat = barrierSizes events := by
  rw [barrierGeneration_total, Nat.mod_eq_of_lt ((barrierSizes_le events).trans_lt bounded)]

theorem barrierGeneration_le_healing :
    (total tally events).barrierGeneration ≤ (total tally events).healing := by
  rw [UInt64.le_iff_toNat_le, healing_total_of_lt bounded, barrierGeneration_total_of_lt bounded]
  exact barrierSizes_le events

theorem total_filter_le (few : events.length < 2 ^ 64) (P : HealEvent → Bool) :
    (total tally (events.filter P)).healing ≤ (total tally events).healing ∧
    (total tally (events.filter P)).hits ≤ (total tally events).hits ∧
    (total tally (events.filter P)).barrierGeneration ≤
      (total tally events).barrierGeneration := by
  have fewer := List.length_filter_le P events
  have smaller : sizes (events.filter P) ≤ sizes events := sizes_sublist List.filter_sublist
  have less := smaller.trans_lt bounded
  simp only [UInt64.le_iff_toNat_le, healing_total_of_lt bounded, healing_total_of_lt less,
    barrierGeneration_total_of_lt bounded, barrierGeneration_total_of_lt less, hits_total,
    Nat.mod_eq_of_lt few, Nat.mod_eq_of_lt (fewer.trans_lt few)]
  exact ⟨smaller, fewer, sizes_sublist (List.filter_sublist.filter _)⟩

end Ordered

end ArcdpsHealing.Stats
