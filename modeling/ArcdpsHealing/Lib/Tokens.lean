import Mathlib.Data.List.SplitBy
import Mathlib.Data.List.TakeWhile

universe u

namespace ArcdpsHealing.Lib

variable {α : Type u} (delim : α → Bool)

inductive Runs : List α → List (List α) → Prop
  | done {gap} : (∀ c ∈ gap, delim c = true) → Runs gap []
  | run {gap run rest runs} : (∀ c ∈ gap, delim c = true) → run ≠ [] →
      (∀ c ∈ run, delim c = false) → (∀ c ∈ rest.head?, delim c = true) → Runs rest runs →
      Runs (gap ++ run ++ rest) (run :: runs)

def tokens [Inhabited α] (s : List α) : List (List α) :=
  (s.splitBy fun a b => delim a = delim b).filter fun chunk => !delim (chunk.headD default)

variable {delim}

theorem head_dropWhile {p : α → Bool} {s : List α} {c : α} (h : c ∈ (s.dropWhile p).head?) :
    p c = false := by
  have stops := List.head?_dropWhile_not p s
  rw [Option.mem_def.mp h] at stops
  exact stops

variable (delim) in
theorem exists_runs (s : List α) : ∃ runs, Runs delim s runs := by
  obtain ⟨n, short⟩ : ∃ n, s.length ≤ n := ⟨s.length, Nat.le_refl _⟩
  induction n generalizing s with
  | zero =>
    rw [Nat.le_zero, List.length_eq_zero_iff] at short
    exact ⟨[], .done fun c member => by simp [short] at member⟩
  | succ n ih =>
    have gap : ∀ c ∈ s.takeWhile delim, delim c = true := fun c => List.mem_takeWhile_imp
    have split : s.takeWhile delim ++ s.dropWhile delim = s := List.takeWhile_append_dropWhile
    cases after : s.dropWhile delim with
    | nil =>
      rw [after, List.append_nil] at split
      exact ⟨[], .done (split ▸ gap)⟩
    | cons a s' =>
      have first : delim a = false := head_dropWhile (s := s) (by rw [after]; rfl)
      have plain : ∀ c ∈ a :: s'.takeWhile (!delim ·), delim c = false := by
        intro c member
        rcases List.mem_cons.mp member with rfl | member
        · exact first
        · simpa using List.mem_takeWhile_imp member
      have ends : ∀ c ∈ (s'.dropWhile (!delim ·)).head?, delim c = true := fun c h => by
        simpa using head_dropWhile h
      have length := congrArg List.length split
      rw [after, List.length_append, List.length_cons] at length
      have rest : (s'.dropWhile (!delim ·)).length ≤ s'.length :=
        (List.dropWhile_suffix _).length_le
      obtain ⟨runs, h⟩ := ih (s'.dropWhile (!delim ·)) (by omega)
      have whole := Runs.run gap (List.cons_ne_nil _ _) plain ends h
      rw [List.append_assoc, List.cons_append, List.takeWhile_append_dropWhile, ← after,
        split] at whole
      exact ⟨_, whole⟩

theorem isChain_same {s : List α} {kind : Bool} (h : ∀ c ∈ s, delim c = kind) :
    s.IsChain fun a b => decide (delim a = delim b) = true := by
  apply List.Pairwise.isChain
  apply List.pairwise_of_forall_mem_list
  intro a first b second
  exact decide_eq_true ((h a first).trans (h b second).symm)

section Tokens

variable [Inhabited α]

theorem tokens_append {s t : List α} (h : ∀ a ∈ s.getLast?, ∀ b ∈ t.head?, delim a ≠ delim b) :
    tokens delim (s ++ t) = tokens delim s ++ tokens delim t := by
  rw [tokens, List.splitBy_append, List.filter_append]
  · rfl
  · exact fun a last b head => decide_eq_false (h a last b head)

theorem tokens_gap {gap : List α} (h : ∀ c ∈ gap, delim c = true) : tokens delim gap = [] := by
  cases gap with
  | nil => rfl
  | cons c gap =>
    rw [tokens, List.splitBy_of_isChain (List.cons_ne_nil _ _) (isChain_same h)]
    simp [h c (.head _)]

theorem tokens_run {run : List α} (some : run ≠ []) (h : ∀ c ∈ run, delim c = false) :
    tokens delim run = [run] := by
  cases run with
  | nil => exact absurd rfl some
  | cons c run =>
    rw [tokens, List.splitBy_of_isChain (List.cons_ne_nil _ _) (isChain_same h)]
    simp [h c (.head _)]

theorem Runs.tokens_eq {s : List α} {runs : List (List α)} (h : Runs delim s runs) :
    tokens delim s = runs := by
  induction h with
  | done gap => exact tokens_gap gap
  | @run gap run rest runs isGap some plain ends _ ih =>
    have last : ∀ a ∈ (gap ++ run).getLast?, delim a = false := by
      intro a h
      rw [List.getLast?_append_of_ne_nil _ some] at h
      exact plain a (List.mem_of_getLast? h)
    rw [tokens_append, tokens_append, tokens_gap isGap, tokens_run some plain, ih]
    · rfl
    · intro a h b h'
      rw [isGap a (List.mem_of_getLast? h), plain b (List.mem_of_head? h')]
      decide
    · intro a h b h'
      rw [last a h, ends b h']
      decide

end Tokens

end ArcdpsHealing.Lib
