import Mathlib.Order.Basic

namespace ArcdpsHealing.Lib

theorem toNat_max (a b : UInt64) : (max a b).toNat = max a.toNat b.toNat := by
  change (ite (a ≤ b) b a).toNat = _
  grind [UInt64.le_iff_toNat_le]

theorem le_max_of_le {a b : UInt64} (h : a ≤ b) (c : UInt64) : a ≤ max b c := by
  rw [UInt64.le_iff_toNat_le] at h ⊢
  rw [toNat_max]
  exact Nat.le_trans h (Nat.le_max_left _ _)

theorem le_max_iff_or {a b c : UInt64} : a ≤ max b c ↔ a ≤ b ∨ a ≤ c := by
  rw [UInt64.le_iff_toNat_le, UInt64.le_iff_toNat_le, UInt64.le_iff_toNat_le, toNat_max]
  omega

theorem max_le_max_of_le {a b : UInt64} (h : a ≤ b) (c : UInt64) : max a c ≤ max b c := by
  rw [UInt64.le_iff_toNat_le] at h ⊢
  rw [toNat_max, toNat_max]
  omega

theorem max_eq_of_le {a b : UInt64} (h : a ≤ b) : max a b = b := by
  rw [UInt64.le_iff_toNat_le] at h
  rw [← UInt64.toNat_inj, toNat_max, Nat.max_eq_right h]

theorem max_eq_of_ge {a b : UInt64} (h : b ≤ a) : max a b = a := by
  rw [UInt64.le_iff_toNat_le] at h
  rw [← UInt64.toNat_inj, toNat_max, Nat.max_eq_left h]

@[simp] theorem zero_max (a : UInt64) : max 0 a = a := max_eq_of_le UInt64.zero_le

@[simp] theorem max_zero (a : UInt64) : max a 0 = a := by
  rw [← UInt64.toNat_inj, toNat_max]
  exact Nat.max_zero a.toNat

theorem max_eq_zero {a b : UInt64} : max a b = 0 ↔ a = 0 ∧ b = 0 := by
  rw [← UInt64.toNat_inj, ← UInt64.toNat_inj, ← UInt64.toNat_inj, toNat_max]
  exact Nat.max_eq_zero_iff

theorem le_foldl_max {times : List UInt64} {a t : UInt64} :
    t ≤ times.foldl max a ↔ t ≤ a ∨ ∃ m ∈ times, t ≤ m := by
  induction times generalizing a with
  | nil => simp
  | cons m times ih =>
    rw [List.foldl_cons, ih, le_max_iff_or, or_assoc]
    simp

theorem and_ne_zero_of_or {a c : UInt64} (b : UInt64) (h : a &&& c ≠ 0) : (a ||| b) &&& c ≠ 0 := by
  have split : (a ||| b) &&& c = a &&& c ||| b &&& c := by
    apply UInt64.toBitVec_inj.mp
    ext i
    simp [Bool.and_or_distrib_right]
  rw [split]
  exact fun zero => h (UInt64.or_eq_zero_iff.mp zero).1

end ArcdpsHealing.Lib
