import Mathlib.Data.List.Basic

universe u v

namespace ArcdpsHealing.Lib

variable {S : Type u} {L : Type v}

/-- A run of a labelled transition system, with the labels in order. -/
inductive Run (step : S → L → S → Prop) : S → List L → S → Prop
  | nil {s} : Run step s [] s
  | snoc {s ls t l u} : Run step s ls t → step t l u → Run step s (ls ++ [l]) u

namespace Run

variable {step : S → L → S → Prop}

theorem trans {s ls t ms u} (h : Run step s ls t) (k : Run step t ms u) :
    Run step s (ls ++ ms) u := by
  induction k with
  | nil => simpa using h
  | snoc _ last ih =>
    rw [← List.append_assoc]
    exact ih.snoc last

theorem mono {step' : S → L → S → Prop} (weaker : ∀ {s l t}, step s l t → step' s l t) {s ls t}
    (h : Run step s ls t) : Run step' s ls t := by
  induction h with
  | nil => exact nil
  | snoc _ last ih => exact ih.snoc (weaker last)

theorem history {P : List L → S → Prop} (ok : L → Prop)
    (preserved : ∀ {ls t l u}, P ls t → ok l → step t l u → P (ls ++ [l]) u)
    {s ls t} (h : Run step s ls t) (start : P [] s) (labels : ∀ l ∈ ls, ok l) : P ls t := by
  induction h with
  | nil => exact start
  | snoc _ last ih =>
    simp only [List.mem_append, List.mem_singleton] at labels
    have before := ih (fun l hl => labels l (.inl hl))
    exact preserved before (labels _ (.inr rfl)) last

theorem invariant {P : S → Prop} (ok : L → Prop)
    (preserved : ∀ {s l t}, P s → ok l → step s l t → P t)
    {s ls t} (h : Run step s ls t) (start : P s) (labels : ∀ l ∈ ls, ok l) : P t :=
  h.history (P := fun _ t => P t) ok preserved start labels

end Run

theorem sublist_snoc {l xs : List L} {x y : L} :
    (l ++ [x]).Sublist (xs ++ [y]) ↔ (l ++ [x]).Sublist xs ∨ x = y ∧ l.Sublist xs := by
  have before : (l ++ [x]).Sublist xs ↔ (x :: l.reverse).Sublist xs.reverse := by
    rw [← List.reverse_sublist, List.reverse_append]
    rfl
  have first : l.Sublist xs ↔ l.reverse.Sublist xs.reverse := List.reverse_sublist.symm
  rw [before, first, ← List.reverse_sublist, List.reverse_append, List.reverse_append]
  exact List.cons_sublist_cons'

theorem split_snoc {xs : List L} {x y : L} {P : List L → List L → Prop} :
    (∃ before after, xs ++ [y] = before ++ x :: after ∧ P before after) ↔
      y = x ∧ P xs [] ∨ ∃ before after, xs = before ++ x :: after ∧ P before (after ++ [y]) := by
  constructor
  · rintro ⟨before, after, split, holds⟩
    obtain rfl | ⟨after, z, rfl⟩ := List.eq_nil_or_concat' after
    · obtain ⟨rfl, same⟩ := List.append_inj' split rfl
      exact .inl ⟨(List.cons.inj same).1, holds⟩
    · rw [← List.cons_append, ← List.append_assoc] at split
      obtain ⟨rfl, same⟩ := List.append_inj' split rfl
      obtain ⟨rfl, -⟩ := List.cons.inj same
      exact .inr ⟨before, after, rfl, holds⟩
  · rintro (⟨rfl, holds⟩ | ⟨before, after, rfl, holds⟩)
    · exact ⟨xs, [], rfl, holds⟩
    · exact ⟨before, after ++ [y], by simp, holds⟩

end ArcdpsHealing.Lib
