import Mathlib.Algebra.BigOperators.Group.List.Basic
import Mathlib.Data.List.Induction
import Std.Data.ExtTreeMap

universe u v w

namespace ArcdpsHealing.Lib

open Std

variable {α : Type u} {κ : Type v} {M : Type w} [AddCommMonoid M]

def total (weight : α → M) (xs : List α) : M := (xs.map weight).sum

section Total

variable (weight : α → M)

@[simp] theorem total_nil : total weight [] = 0 := rfl

@[simp] theorem total_cons (x : α) (xs : List α) :
    total weight (x :: xs) = weight x + total weight xs :=
  List.sum_cons

@[simp] theorem total_append (xs ys : List α) :
    total weight (xs ++ ys) = total weight xs + total weight ys := by
  simp [total]

theorem total_perm {xs ys : List α} (h : xs.Perm ys) : total weight xs = total weight ys :=
  (h.map weight).sum_eq

theorem total_map {β : Type u} (f : β → α) (xs : List β) :
    total weight (xs.map f) = total (fun x => weight (f x)) xs := by
  simp [total, Function.comp_def]

theorem total_filter_add (P : α → Bool) (xs : List α) :
    total weight (xs.filter P) + total weight (xs.filter fun x => !P x) = total weight xs := by
  induction xs with
  | nil => exact add_zero 0
  | cons x xs ih =>
    cases h : P x with
    | true =>
      simp only [List.filter_cons, h, if_true, Bool.not_true, Bool.false_eq_true, if_false,
        total_cons]
      rw [add_assoc, ih]
    | false =>
      simp only [List.filter_cons, h, if_true, Bool.not_false, Bool.false_eq_true, if_false,
        total_cons]
      rw [add_left_comm, ih]

variable [DecidableEq κ] (key : α → κ)

theorem sum_pick {ks : List κ} (nodup : ks.Nodup) {k : κ} (member : k ∈ ks) (m : M) :
    (ks.map fun k' => if k = k' then m else 0).sum = m := by
  induction ks with
  | nil => cases member
  | cons k' ks ih =>
    obtain ⟨fresh, nodup⟩ := List.nodup_cons.mp nodup
    by_cases here : k = k'
    · subst here
      have rest : (ks.map fun k' => if k = k' then m else 0) = ks.map fun _ => 0 := by
        apply List.map_congr_left
        intro k' member
        apply if_neg
        rintro rfl
        exact fresh member
      simp [rest]
    · have member : k ∈ ks := (List.mem_cons.mp member).resolve_left here
      simp only [List.map_cons, List.sum_cons, if_neg here, zero_add]
      exact ih nodup member

theorem sum_total_filter {ks : List κ} (nodup : ks.Nodup) {xs : List α}
    (covered : ∀ x ∈ xs, key x ∈ ks) :
    (ks.map fun k => total weight (xs.filter fun x => key x = k)).sum = total weight xs := by
  induction xs with
  | nil => simp
  | cons x xs ih =>
    have split (k : κ) : total weight ((x :: xs).filter fun x => key x = k) =
        (if key x = k then weight x else 0) + total weight (xs.filter fun x => key x = k) := by
      by_cases h : key x = k
      · simp [h]
      · simp [h]
    simp only [split]
    rw [List.sum_map_add, sum_pick nodup (covered x List.mem_cons_self),
      ih fun y member => covered y (List.mem_cons_of_mem x member), total_cons]

end Total

section Group

variable [Ord κ] [TransOrd κ] (key : α → κ) (weight : α → M)

/-- `try_emplace` with zero and then `+=`, for every element in turn. -/
def group (xs : List α) : ExtTreeMap κ M :=
  xs.foldl (fun m x => m.insert (key x) (m.getD (key x) 0 + weight x)) ∅

theorem group_append (xs : List α) (x : α) : group key weight (xs ++ [x]) =
    (group key weight xs).insert (key x) ((group key weight xs).getD (key x) 0 + weight x) := by
  simp [group]

variable [LawfulEqOrd κ] [DecidableEq κ]

theorem getElem?_group (xs : List α) (k : κ) : (group key weight xs)[k]? =
    if k ∈ xs.map key then some (total weight (xs.filter fun x => key x = k)) else none := by
  induction xs using List.reverseRecOn with
  | nil => simp [group]
  | append_singleton xs x ih =>
    rw [group_append, ExtTreeMap.getElem?_insert, ExtTreeMap.getD_eq_getD_getElem?]
    by_cases h : key x = k
    · subst h
      by_cases known : key x ∈ xs.map key
      · simp [ih, known]
      · have none : (xs.filter fun y => key y = key x) = [] := by
          rw [List.filter_eq_nil_iff]
          intro y member same
          exact known (List.mem_map.mpr ⟨y, member, of_decide_eq_true same⟩)
        simp [ih, known, none]
    · have other : compare (key x) k ≠ .eq := fun e => h (LawfulEqCmp.eq_of_compare e)
      simp [ih, other, h, Ne.symm h]

def rows (xs : List α) : List (κ × M) := (group key weight xs).toList

theorem mem_rows {xs : List α} {row : κ × M} : row ∈ rows key weight xs ↔
    row.1 ∈ xs.map key ∧ row.2 = total weight (xs.filter fun x => key x = row.1) := by
  obtain ⟨k, m⟩ := row
  unfold rows
  rw [ExtTreeMap.mem_toList_iff_getElem?_eq_some, getElem?_group]
  split
  case isTrue known => simp [known, eq_comm]
  case isFalse fresh => simp [fresh]

omit [DecidableEq κ] in
theorem nodup_keys (xs : List α) : ((rows key weight xs).map Prod.fst).Nodup := by
  have distinct := ExtTreeMap.distinct_keys_toList (t := group key weight xs)
  rw [List.Nodup, List.pairwise_map]
  apply distinct.imp
  intro a b differ same
  exact differ (same ▸ ReflCmp.compare_self)

theorem filter_rows (xs : List α) (k : κ) :
    (rows key weight xs).filter (fun row => row.1 = k) =
      if k ∈ xs.map key then [(k, total weight (xs.filter fun x => key x = k))] else [] := by
  have nodup := (nodup_keys key weight xs).sublist
    ((List.filter_sublist (p := fun row => row.1 = k)).map Prod.fst)
  have member (row : κ × M) : row ∈ (rows key weight xs).filter (fun row => row.1 = k) ↔
      k ∈ xs.map key ∧ row = (k, total weight (xs.filter fun x => key x = k)) := by
    rw [List.mem_filter, mem_rows, decide_eq_true_eq]
    constructor
    · rintro ⟨⟨known, value⟩, rfl⟩
      exact ⟨known, Prod.ext rfl value⟩
    · rintro ⟨known, rfl⟩
      exact ⟨⟨known, rfl⟩, rfl⟩
  generalize (rows key weight xs).filter (fun row => row.1 = k) = found at nodup member
  by_cases known : k ∈ xs.map key
  · rw [if_pos known]
    have here := (member _).mpr ⟨known, rfl⟩
    cases found with
    | nil => cases here
    | cons first rest =>
      have value := ((member first).mp List.mem_cons_self).2
      cases rest with
      | nil => rw [value]
      | cons second rest =>
        have value' := ((member second).mp (by simp)).2
        simp [value, value'] at nodup
  · rw [if_neg known]
    apply List.eq_nil_iff_forall_not_mem.mpr
    intro row here
    exact known ((member row).mp here).1

theorem sum_rows_filter (P : κ → Bool) (xs : List α) :
    total Prod.snd ((rows key weight xs).filter fun row => P row.1) =
      total weight (xs.filter fun x => P (key x)) := by
  have keyed : ((rows key weight xs).filter fun row => P row.1).map Prod.snd =
      (((rows key weight xs).filter fun row => P row.1).map Prod.fst).map fun k =>
        total weight ((xs.filter fun x => P (key x)).filter fun x => key x = k) := by
    rw [List.map_map]
    apply List.map_congr_left
    intro row member
    obtain ⟨member, selected⟩ := List.mem_filter.mp member
    rw [((mem_rows key weight).mp member).2, Function.comp_apply, List.filter_filter]
    congr 1
    apply List.filter_congr
    intro x _
    by_cases h : key x = row.1
    · simp [h, selected]
    · simp [h]
  unfold total at keyed ⊢
  rw [keyed]
  apply sum_total_filter
  · exact (nodup_keys key weight xs).sublist (List.filter_sublist.map _)
  · intro x member
    obtain ⟨member, selected⟩ := List.mem_filter.mp member
    let row := (key x, total weight (xs.filter fun y => key y = key x))
    have here : row ∈ rows key weight xs :=
      (mem_rows key weight).mpr ⟨List.mem_map_of_mem member, rfl⟩
    exact List.mem_map.mpr ⟨row, List.mem_filter.mpr ⟨here, selected⟩, rfl⟩

theorem sum_rows (xs : List α) :
    total Prod.snd (rows key weight xs) = total weight xs := by
  simpa using sum_rows_filter key weight (fun _ => true) xs

end Group

end ArcdpsHealing.Lib
