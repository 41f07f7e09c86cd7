import Mathlib.Data.Fintype.Card
import Mathlib.Logic.Relation

universe u

namespace ArcdpsHealing.Lib

open Relation

variable {α : Type u} {R R' : α → α → Prop}

def Acyclic (R : α → α → Prop) : Prop := ∀ a, ¬ TransGen R a a

def CycleFree (R : α → α → Prop) (a : α) : Prop := ∀ b, ReflTransGen R a b → ¬ TransGen R b b

theorem Acyclic.mono (h : Acyclic R) (sub : ∀ a b, R' a b → R a b) : Acyclic R' :=
  fun a cycle => h a (TransGen.mono sub a a cycle)

theorem Acyclic.ne (h : Acyclic R) {a b : α} (edge : R a b) : a ≠ b := by
  rintro rfl
  exact h a (.single edge)

theorem Acyclic.of_lt {f : α → Nat} (lower : ∀ a b, R a b → f b < f a) : Acyclic R := by
  have below {a b : α} (path : TransGen R a b) : f b < f a := by
    induction path with
    | single edge => exact lower _ _ edge
    | tail _ edge ih => exact (lower _ _ edge).trans ih
  exact fun a cycle => Nat.lt_irrefl _ (below cycle)

theorem transGen_or_through {i : α} (old : ∀ a b, a ≠ i → R' a b → R a b) {a b : α}
    (path : TransGen R' a b) : TransGen R a b ∨ ReflTransGen R' a i ∧ TransGen R' i b := by
  induction path with
  | single edge =>
    by_cases here : a = i
    · subst here
      exact .inr ⟨.refl, .single edge⟩
    · exact .inl (.single (old _ _ here edge))
  | tail path edge ih =>
    rename_i b c
    rcases ih with before | ⟨into, through⟩
    · by_cases here : b = i
      · subst here
        exact .inr ⟨path.to_reflTransGen, .single edge⟩
      · exact .inl (before.tail (old _ _ here edge))
    · exact .inr ⟨into, through.tail edge⟩

theorem Acyclic.of_old (h : Acyclic R) {i : α} (old : ∀ a b, a ≠ i → R' a b → R a b)
    (closed : ¬ TransGen R' i i) : Acyclic R' := by
  intro a cycle
  rcases transGen_or_through old cycle with before | ⟨into, through⟩
  · exact h a before
  · exact closed (through.trans_left into)

theorem cycleFree_of_acc {a : α} (h : Acc (fun b a => R a b) a) : CycleFree R a := by
  induction h with
  | intro a _ ih =>
    have below {b : α} (path : TransGen R a b) : ¬ TransGen R b b := by
      obtain ⟨c, edge, path⟩ := TransGen.head'_iff.mp path
      exact ih c edge b path
    intro b path
    rcases reflTransGen_iff_eq_or_transGen.mp path with rfl | path
    · exact fun cycle => below cycle cycle
    · exact below path

theorem cycleFree_of_no_edge {a : α} (stop : ∀ b, ¬ R a b) : CycleFree R a :=
  cycleFree_of_acc ⟨a, fun b edge => absurd edge (stop b)⟩

section Height

variable [Fintype α]

open Classical in
noncomputable def height (R : α → α → Prop) (a : α) : Nat :=
  (Finset.univ.filter (TransGen R a)).card

theorem height_lt (h : Acyclic R) {a b : α} (edge : R a b) : height R b < height R a := by
  classical
  apply Finset.card_lt_card
  refine (Finset.ssubset_iff_of_subset ?_).mpr ⟨b, ?_, ?_⟩
  · intro c reached
    simp only [Finset.mem_filter, Finset.mem_univ, true_and] at reached ⊢
    exact .head edge reached
  · simpa using TransGen.single edge
  · simpa using h b

theorem height_lt_card (h : Acyclic R) (a : α) : height R a < Fintype.card α := by
  classical
  apply Finset.card_lt_univ_of_notMem (x := a)
  simpa using h a

end Height

end ArcdpsHealing.Lib
