import Mathlib.Data.Finset.Basic

universe u v

namespace ArcdpsHealing.Lib.Reconcile

open Std

variable {κ : Type u} {ν : Type v} {cmp : κ → κ → Ordering} [TransCmp cmp] [LawfulEqCmp cmp]
  {s t original copy : ExtTreeMap κ ν cmp} {k : κ} {a : ν}

theorem ext_some (h : ∀ (k : κ) (a : ν), s[k]? = some a ↔ t[k]? = some a) : s = t :=
  ExtTreeMap.ext_getElem? fun k => Option.ext (h k)

theorem getElem?_erase_eq_some {j : κ} :
    (s.erase j)[k]? = some a ↔ j ≠ k ∧ s[k]? = some a := by
  simp [ExtTreeMap.getElem?_erase]

theorem getElem?_insert_eq_some {j : κ} {b : ν} :
    (s.insert j b)[k]? = some a ↔ (j = k ∧ b = a) ∨ (j ≠ k ∧ s[k]? = some a) := by
  by_cases same : j = k
  · simp [same]
  · simp [ExtTreeMap.getElem?_insert, same]

theorem getElem?_insertIfNew_eq_or [DecidableEq κ] (j : κ) (b : ν) :
    (s.insertIfNew j b)[k]? = (s[k]?).or (if j = k then some b else none) := by
  rw [ExtTreeMap.getElem?_insertIfNew]
  by_cases here : j = k
  · subst here
    cases known : s[j]? <;> simp [ExtTreeMap.mem_iff_isSome_getElem?, known]
  · have other : cmp j k ≠ .eq := fun same => here (LawfulEqCmp.eq_of_compare same)
    rw [if_neg fun h => other h.1, if_neg here, Option.or_none]

omit [LawfulEqCmp cmp] in
theorem size_erase (here : s[k]? = some a) : (s.erase k).size + 1 = s.size := by
  have mem : s.contains k = true := by simp [ExtTreeMap.contains_eq_isSome_getElem?, here]
  have nonempty : s.size ≠ 0 := by
    rw [Ne, ← ExtTreeMap.eq_empty_iff_size_eq_zero]
    intro empty
    simp [empty] at here
  rw [ExtTreeMap.size_erase, if_pos mem]
  omega

variable [DecidableEq ν]

def beyond (s t : ExtTreeMap κ ν cmp) : ExtTreeMap κ ν cmp := s.filter fun k a => t[k]? ≠ some a

def distance (original copy : ExtTreeMap κ ν cmp) : Nat :=
  (beyond copy original).size + (beyond original copy).size

theorem getElem?_beyond : (beyond s t)[k]? = some a ↔ s[k]? = some a ∧ t[k]? ≠ some a := by
  simp [beyond, Option.filter_eq_some_iff]

theorem beyond_eq_empty : beyond s t = ∅ ↔ ∀ (k : κ) (a : ν), s[k]? = some a → t[k]? = some a := by
  constructor
  · intro empty k a here
    have missing : (beyond s t)[k]? ≠ some a := by simp [empty]
    rw [Ne, getElem?_beyond, not_and_not_right] at missing
    exact missing here
  · intro all
    apply ExtTreeMap.ext_getElem?
    intro k
    rw [ExtTreeMap.getElem?_empty, Option.eq_none_iff_forall_ne_some]
    intro a here
    rw [getElem?_beyond] at here
    exact here.2 (all k a here.1)

omit [LawfulEqCmp cmp] in
theorem distance_le : distance original copy ≤ copy.size + original.size :=
  Nat.add_le_add ExtTreeMap.size_filter_le_size ExtTreeMap.size_filter_le_size

theorem distance_eq_zero : distance original copy = 0 ↔ copy = original := by
  unfold distance
  rw [Nat.add_eq_zero_iff, ← ExtTreeMap.eq_empty_iff_size_eq_zero,
    ← ExtTreeMap.eq_empty_iff_size_eq_zero, beyond_eq_empty, beyond_eq_empty]
  constructor
  · intro ⟨left, right⟩
    apply ExtTreeMap.ext_getElem?
    intro k
    rw [Option.ext_iff]
    exact fun a => ⟨left k a, right k a⟩
  · intro same
    subst same
    exact ⟨fun _ _ => id, fun _ _ => id⟩

theorem distance_erase (here : copy[k]? = some a) (stale : original[k]? ≠ some a) :
    distance original (copy.erase k) + 1 = distance original copy := by
  have left : beyond (copy.erase k) original = (beyond copy original).erase k := by
    apply ext_some
    intro j b
    rw [getElem?_beyond, getElem?_erase_eq_some, getElem?_erase_eq_some, getElem?_beyond, and_assoc]
  have right : beyond original (copy.erase k) = beyond original copy := by
    apply ext_some
    intro j b
    rw [getElem?_beyond, getElem?_beyond, Ne, getElem?_erase_eq_some]
    by_cases same : k = j
    · subst same
      rw [here]
      grind
    · simp [same]
  have gone : (beyond copy original)[k]? = some a := getElem?_beyond.mpr ⟨here, stale⟩
  have size := size_erase gone
  unfold distance
  rw [left, right]
  omega

theorem distance_insert (here : original[k]? = some a) (missing : copy[k]? = none) :
    distance original (copy.insert k a) + 1 = distance original copy := by
  have left : beyond (copy.insert k a) original = beyond copy original := by
    apply ext_some
    intro j b
    rw [getElem?_beyond, getElem?_beyond, getElem?_insert_eq_some]
    grind
  have right : beyond original (copy.insert k a) = (beyond original copy).erase k := by
    apply ext_some
    intro j b
    rw [getElem?_beyond, getElem?_erase_eq_some, getElem?_beyond, Ne, getElem?_insert_eq_some]
    grind
  have added : (beyond original copy)[k]? = some a :=
    getElem?_beyond.mpr ⟨here, by simp [missing]⟩
  have size := size_erase added
  unfold distance
  rw [left, right]
  omega

end ArcdpsHealing.Lib.Reconcile
