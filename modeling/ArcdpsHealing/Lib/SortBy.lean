import Mathlib.Data.List.Sort

universe u v

namespace ArcdpsHealing.Lib

variable {α : Type u} {before : α → α → Bool}

structure StrictWeakOrder (before : α → α → Bool) : Prop where
  irrefl : ∀ a, before a a = false
  trans : ∀ {a b c}, before a b = true → before b c = true → before a c = true
  cotrans : ∀ {a b c}, before a b = false → before b c = false → before a c = false

namespace StrictWeakOrder

section Key

variable {κ : Type v} [LE κ] [LT κ] [Std.IsLinearOrder κ] [Std.LawfulOrderLT κ]

theorem of_key (key : α → κ) (compares : ∀ a b, before a b = true ↔ key a < key b) :
    StrictWeakOrder before := by
  have not_before (a b : α) : before a b = false ↔ key b ≤ key a := by
    rw [← Bool.not_eq_true, compares, Std.not_lt]
  refine ⟨fun a => ?_, fun {a b c} ab bc => ?_, fun {a b c} ab bc => ?_⟩
  · exact (not_before a a).mpr (Std.le_refl _)
  · rw [compares] at *
    exact Std.lt_trans ab bc
  · rw [not_before] at *
    exact Std.le_trans bc ab

end Key

theorem flip (h : StrictWeakOrder before) : StrictWeakOrder fun a b => before b a :=
  ⟨h.irrefl, fun ab bc => h.trans bc ab, fun ab bc => h.cotrans bc ab⟩

theorem none : StrictWeakOrder fun _ _ : α => false :=
  ⟨fun _ => rfl, nofun, fun _ _ => rfl⟩

theorem asymm (h : StrictWeakOrder before) {a b : α} (ab : before a b = true) :
    before b a = false := by
  by_contra ba
  rw [Bool.not_eq_false] at ba
  exact Bool.false_ne_true ((h.irrefl a).symm.trans (h.trans ab ba))

theorem pairwise_insertionSort (h : StrictWeakOrder before) (xs : List α) :
    (xs.insertionSort fun a b => !before b a).Pairwise fun a b => before b a = false := by
  let notAfter : α → α → Prop := fun a b => (!before b a) = true
  have total : Std.Total notAfter := by
    refine ⟨fun a b => ?_⟩
    cases ab : before b a with
    | false => exact .inl (by simp [notAfter, ab])
    | true => exact .inr (by simp [notAfter, h.asymm ab])
  have trans : IsTrans α notAfter := by
    refine ⟨fun a b c ab bc => ?_⟩
    simp only [notAfter, Bool.not_eq_true'] at *
    exact h.cotrans bc ab
  refine (List.pairwise_insertionSort notAfter xs).imp fun {a b} ab => ?_
  simpa [notAfter] using ab

end StrictWeakOrder

end ArcdpsHealing.Lib
