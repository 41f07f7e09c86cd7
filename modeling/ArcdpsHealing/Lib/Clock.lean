import ArcdpsHealing.Lib.Word
import Mathlib.Algebra.Order.Ring.Nat

namespace ArcdpsHealing.Lib

structure Shiftable (d t : UInt64) : Prop where
  nonzero : t ≠ 0
  fits : t.toNat + d.toNat < 2 ^ 64

namespace Shiftable

variable {d t t' : UInt64} (h : Shiftable d t) (h' : Shiftable d t')

theorem zero (nonzero : t ≠ 0) : Shiftable 0 t := ⟨nonzero, t.toNat_lt⟩

include h

theorem toNat_add : (t + d).toNat = t.toNat + d.toNat := by
  rw [UInt64.toNat_add, Nat.mod_eq_of_lt h.fits]

theorem add_ne_zero : t + d ≠ 0 := by
  intro zero
  have := h.toNat_add
  rw [zero] at this
  apply h.nonzero
  rw [← UInt64.toNat_inj]
  change 0 = _ at this
  change _ = 0
  omega

include h'

theorem add_le_add : t + d ≤ t' + d ↔ t ≤ t' := by
  rw [UInt64.le_iff_toNat_le, UInt64.le_iff_toNat_le, h.toNat_add, h'.toNat_add]
  omega

theorem max : Shiftable d (max t t') := by
  by_cases order : t ≤ t'
  · rwa [max_eq_of_le order]
  · rwa [max_eq_of_ge (UInt64.le_of_lt (UInt64.not_le.mp order))]

theorem max_add : Max.max t t' + d = Max.max (t + d) (t' + d) := by
  by_cases order : t ≤ t'
  · rw [max_eq_of_le order, max_eq_of_le ((h.add_le_add h').mpr order)]
  · have order := UInt64.le_of_lt (UInt64.not_le.mp order)
    rw [max_eq_of_ge order, max_eq_of_ge ((h'.add_le_add h).mpr order)]

end Shiftable

def shiftTime (d t : UInt64) : UInt64 := if t = 0 then 0 else t + d

namespace Shiftable

variable {d t : UInt64}

theorem shiftTime_eq (h : Shiftable d t) : shiftTime d t = t + d := if_neg h.nonzero

theorem max_of {last : UInt64} (known : last ≠ 0 → Shiftable d last) (h : Shiftable d t) :
    Shiftable d (Max.max last t) := by
  by_cases none : last = 0
  · rwa [none, zero_max]
  · exact (known none).max h

theorem shiftTime_max {last : UInt64} (known : last ≠ 0 → Shiftable d last) (h : Shiftable d t) :
    shiftTime d (Max.max last t) = Max.max (shiftTime d last) (t + d) := by
  by_cases none : last = 0
  · rw [none, zero_max, h.shiftTime_eq]
    exact (zero_max _).symm
  · have known := known none
    rw [(known.max h).shiftTime_eq, known.shiftTime_eq, known.max_add h]

end Shiftable

theorem max_add_iff {d e : UInt64} (h : Shiftable d e) (t : UInt64) :
    (d = 0 ∨ t ≤ e → Shiftable d (Max.max t e)) ∧
      (Max.max t (e + d) = Max.max t e + d ↔ d = 0 ∨ t ≤ e) := by
  -- Of two times only one is shifted: this goes unnoticed if the other does not matter.
  by_cases early : t ≤ e
  · have later : t ≤ e + d := by
      rw [UInt64.le_iff_toNat_le, h.toNat_add]
      rw [UInt64.le_iff_toNat_le] at early
      omega
    rw [max_eq_of_le early, max_eq_of_le later]
    exact ⟨fun _ => h, fun _ => .inr early, fun _ => rfl⟩
  · have order := UInt64.le_of_lt (UInt64.not_le.mp early)
    rw [max_eq_of_ge order, or_iff_left early]
    refine ⟨?_, ?_⟩
    · rintro rfl
      refine .zero ?_
      rintro rfl
      exact early UInt64.zero_le
    by_cases reached : t ≤ e + d
    · rw [max_eq_of_le reached]
      constructor
      · intro same
        have same : e = t := by simpa using same
        exact absurd (UInt64.le_of_eq same.symm) early
      · rintro rfl
        rw [UInt64.add_zero] at reached
        exact absurd reached early
    · rw [max_eq_of_ge (UInt64.le_of_lt (UInt64.not_le.mp reached))]
      exact ⟨fun same => by simpa using same, fun zero => by rw [zero, UInt64.add_zero]⟩

theorem shiftTime_eq_zero {d t : UInt64} (known : t ≠ 0 → Shiftable d t) :
    shiftTime d t = 0 ↔ t = 0 := by
  unfold shiftTime
  by_cases none : t = 0
  · rw [if_pos none, none]
  · rw [if_neg none]
    exact ⟨fun zero => absurd zero (known none).add_ne_zero, fun zero => absurd zero none⟩

end ArcdpsHealing.Lib
