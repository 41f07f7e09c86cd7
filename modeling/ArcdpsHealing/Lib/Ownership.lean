import Mathlib.Data.List.Basic
import Mathlib.Logic.Function.Basic
import Mathlib.Logic.Relation

/-! Resources that are obtained and released again by whoever owns them. -/

universe u v

namespace ArcdpsHealing.Lib

open Relation

inductive Transaction (H : Type u)
  | obtained (h : H)
  | released (h : H)
  deriving DecidableEq

namespace Transaction

variable {H : Type u} [DecidableEq H]

def obtains (history : List (Transaction H)) (h : H) : Nat := history.count (.obtained h)

def releases (history : List (Transaction H)) (h : H) : Nat := history.count (.released h)

def Outstanding (history : List (Transaction H)) (h : H) : Prop :=
  releases history h < obtains history h

instance (history : List (Transaction H)) (h : H) : Decidable (Outstanding history h) :=
  inferInstanceAs (Decidable (releases history h < obtains history h))

def Balanced (history : List (Transaction H)) : Prop :=
  ∀ h, releases history h ≤ obtains history h ∧ obtains history h ≤ releases history h + 1

section Append

variable (history : List (Transaction H)) (k h : H)

@[simp] theorem obtains_obtained :
    obtains (history ++ [.obtained k]) h = obtains history h + if k = h then 1 else 0 := by
  simp [obtains, List.count_append, List.count_singleton]

@[simp] theorem releases_obtained :
    releases (history ++ [.obtained k]) h = releases history h := by
  simp [releases, List.count_append]

@[simp] theorem obtains_released :
    obtains (history ++ [.released k]) h = obtains history h := by
  simp [obtains, List.count_append]

@[simp] theorem releases_released :
    releases (history ++ [.released k]) h = releases history h + if k = h then 1 else 0 := by
  simp [releases, List.count_append, List.count_singleton]

end Append

variable {history : List (Transaction H)} {k h : H}

theorem balanced_nil : Balanced ([] : List (Transaction H)) :=
  fun _ => ⟨Nat.le_refl _, Nat.zero_le _⟩

theorem not_outstanding_nil : ¬ Outstanding ([] : List (Transaction H)) h := Nat.lt_irrefl 0

namespace Balanced

theorem obtained (balanced : Balanced history) (fresh : ¬ Outstanding history k) :
    Balanced (history ++ [.obtained k]) := by
  intro h
  have before := balanced h
  rw [obtains_obtained, releases_obtained]
  split
  · rename_i same
    subst same
    have := Nat.le_of_not_lt fresh
    omega
  · omega

theorem released (balanced : Balanced history) (outstanding : Outstanding history k) :
    Balanced (history ++ [.released k]) := by
  intro h
  have before := balanced h
  rw [obtains_released, releases_released]
  split
  · rename_i same
    subst same
    have : releases history k < obtains history k := outstanding
    omega
  · omega

theorem outstanding_obtained (balanced : Balanced history) :
    Outstanding (history ++ [.obtained k]) h ↔ h = k ∨ Outstanding history h := by
  have before := balanced h
  rw [Outstanding, obtains_obtained, releases_obtained, Outstanding]
  by_cases same : k = h
  · rw [if_pos same]
    exact iff_of_true (by omega) (.inl same.symm)
  · rw [if_neg same, or_iff_right (Ne.symm same)]
    rfl

theorem outstanding_released (balanced : Balanced history) :
    Outstanding (history ++ [.released k]) h ↔ h ≠ k ∧ Outstanding history h := by
  have before := balanced h
  rw [Outstanding, obtains_released, releases_released, Outstanding]
  by_cases same : k = h
  · rw [if_pos same]
    exact iff_of_false (by omega) fun other => other.1 same.symm
  · rw [if_neg same, and_iff_right (Ne.symm same)]
    rfl

theorem eq_iff (balanced : Balanced history) :
    (∀ h, releases history h = obtains history h) ↔ ¬ ∃ h, Outstanding history h := by
  rw [not_exists]
  refine forall_congr' fun h => ?_
  have before := (balanced h).1
  rw [Outstanding]
  omega

end Balanced

end Transaction

open Transaction

/-- What each of the owners has, and what was obtained and released. -/
structure Holdings (ι : Type u) (H : Type v) where
  owned : ι → Option H
  history : List (Transaction H)

namespace Holdings

variable {ι : Type u} {H : Type v} [DecidableEq ι]

section Owned

variable {owned : ι → Option H} {i j k : ι} {h h' : H}

theorem owned_obtain : Function.update owned i (some h') k = some h ↔
    k = i ∧ h = h' ∨ k ≠ i ∧ owned k = some h := by
  rw [Function.update_apply]
  by_cases same : k = i
  · simp [same, eq_comm]
  · simp [same]

theorem owned_release :
    Function.update owned i none k = some h ↔ k ≠ i ∧ owned k = some h := by
  rw [Function.update_apply]
  by_cases same : k = i
  · simp [same]
  · simp [same]

theorem owned_hand (free : owned i = none) :
    Function.update (Function.update owned i (owned j)) j none k = some h ↔
      k = i ∧ i ≠ j ∧ owned j = some h ∨ k ≠ j ∧ owned k = some h := by
  rw [owned_release, Function.update_apply]
  by_cases same : k = i
  · subst same
    simp [free]
  · simp [same]

end Owned

variable [DecidableEq H]

inductive Transfer : Holdings ι H → Holdings ι H → Prop
  | obtain {x i h} (free : x.owned i = none) (fresh : ¬ Outstanding x.history h) :
      Transfer x ⟨Function.update x.owned i (some h), x.history ++ [.obtained h]⟩
  | release {x i h} (has : x.owned i = some h) :
      Transfer x ⟨Function.update x.owned i none, x.history ++ [.released h]⟩
  | hand {x i} (j) (free : x.owned i = none) :
      Transfer x ⟨Function.update (Function.update x.owned i (x.owned j)) j none, x.history⟩

def forget (x : Holdings ι H) (i : ι) : Holdings ι H :=
  ⟨Function.update x.owned i none, x.history⟩

structure Sound (x : Holdings ι H) : Prop where
  balanced : Balanced x.history
  outstanding : ∀ i h, x.owned i = some h → Outstanding x.history h
  unique : ∀ i j h, x.owned i = some h → x.owned j = some h → i = j

def Lost (x : Holdings ι H) (h : H) : Prop := Outstanding x.history h ∧ ∀ i, x.owned i ≠ some h

variable {x y : Holdings ι H}

namespace Sound

theorem transfer (sound : Sound x) (t : Transfer x y) : Sound y := by
  cases t with
  | @obtain i h free fresh =>
    have other {j : ι} (has : x.owned j = some h) : False := fresh (sound.outstanding j h has)
    refine ⟨sound.balanced.obtained fresh, fun j k has => ?_, fun j j' k has has' => ?_⟩
    · rw [sound.balanced.outstanding_obtained]
      rcases owned_obtain.mp has with ⟨-, same⟩ | ⟨-, has⟩
      · exact .inl same
      · exact .inr (sound.outstanding j k has)
    · rcases owned_obtain.mp has with ⟨rfl, rfl⟩ | ⟨-, old⟩ <;>
        rcases owned_obtain.mp has' with ⟨rfl, same⟩ | ⟨-, old'⟩
      · rfl
      · exact (other old').elim
      · exact (other (same ▸ old)).elim
      · exact sound.unique j j' k old old'
  | @release i h owns =>
    refine ⟨sound.balanced.released (sound.outstanding i h owns), fun j k has => ?_,
      fun j j' k has has' => ?_⟩
    · obtain ⟨other, has⟩ := owned_release.mp has
      rw [sound.balanced.outstanding_released]
      refine ⟨fun same => other (sound.unique j i h (same ▸ has) owns), ?_⟩
      exact sound.outstanding j k has
    · exact sound.unique j j' k (owned_release.mp has).2 (owned_release.mp has').2
  | @hand i j free =>
    refine ⟨sound.balanced, fun k h has => ?_, fun k k' h has has' => ?_⟩
    · rcases (owned_hand free).mp has with ⟨-, -, has⟩ | ⟨-, has⟩ <;>
        exact sound.outstanding _ _ has
    · rcases (owned_hand free).mp has with ⟨rfl, -, old⟩ | ⟨other, old⟩ <;>
        rcases (owned_hand free).mp has' with ⟨rfl, -, old'⟩ | ⟨other', old'⟩
      · rfl
      · exact absurd (sound.unique _ _ _ old' old) other'
      · exact absurd (sound.unique _ _ _ old old') other
      · exact sound.unique _ _ _ old old'

theorem forget (sound : Sound x) (i : ι) : Sound (x.forget i) where
  balanced := sound.balanced
  outstanding j h has := sound.outstanding j h (owned_release.mp has).2
  unique j k h has has' := sound.unique j k h (owned_release.mp has).2 (owned_release.mp has').2

theorem lost_forget (sound : Sound x) {i : ι} {h : H} (has : x.owned i = some h) :
    Lost (x.forget i) h := by
  refine ⟨sound.outstanding i h has, fun j again => ?_⟩
  obtain ⟨other, has'⟩ := owned_release.mp again
  exact other (sound.unique j i h has' has)

theorem lost_transfer (sound : Sound x) (t : Transfer x y) (k : H) : Lost y k ↔ Lost x k := by
  cases t with
  | @obtain i h free fresh =>
    have owned (j : ι) : Function.update x.owned i (some h) j = some k ↔
        j = i ∧ k = h ∨ x.owned j = some k := by
      rw [owned_obtain]
      refine or_congr_right (and_iff_right_of_imp ?_)
      rintro has rfl
      cases free.symm.trans has
    constructor
    · intro lost
      have other : k ≠ h := fun same => lost.2 i ((owned i).mpr (.inl ⟨rfl, same⟩))
      refine ⟨(sound.balanced.outstanding_obtained.mp lost.1).resolve_left other, fun j has => ?_⟩
      exact lost.2 j ((owned j).mpr (.inr has))
    · intro lost
      refine ⟨sound.balanced.outstanding_obtained.mpr (.inr lost.1), fun j has => ?_⟩
      rcases (owned j).mp has with ⟨-, same⟩ | old
      · exact fresh (same ▸ lost.1)
      · exact lost.2 j old
  | @release i h owns =>
    constructor
    · intro lost
      obtain ⟨other, outstanding⟩ := sound.balanced.outstanding_released.mp lost.1
      refine ⟨outstanding, fun j has => lost.2 j (owned_release.mpr ⟨?_, has⟩)⟩
      rintro rfl
      cases owns.symm.trans has
      exact other rfl
    · intro lost
      refine ⟨sound.balanced.outstanding_released.mpr ⟨?_, lost.1⟩, fun j has => ?_⟩
      · rintro rfl
        exact lost.2 i owns
      · exact lost.2 j (owned_release.mp has).2
  | @hand i j free =>
    refine and_congr_right fun _ => ⟨fun lost k' has => ?_, fun lost k' has => ?_⟩
    · by_cases moved : k' = j
      · subst moved
        refine lost i ((owned_hand free).mpr (.inl ⟨rfl, ?_, has⟩))
        rintro rfl
        cases free.symm.trans has
      · exact lost k' ((owned_hand free).mpr (.inr ⟨moved, has⟩))
    · rcases (owned_hand free).mp has with ⟨-, -, old⟩ | ⟨-, old⟩
      · exact lost j old
      · exact lost k' old

end Sound

omit [DecidableEq ι] in
theorem Sound.released_iff (sound : Sound x) (nobody : ∀ i, x.owned i = none) :
    (∀ h, releases x.history h = obtains x.history h) ↔ ¬ ∃ h, Lost x h := by
  rw [sound.balanced.eq_iff]
  refine not_congr (exists_congr fun h => ?_)
  refine (and_iff_left fun i has => ?_).symm
  cases (nobody i).symm.trans has

omit [DecidableEq ι] [DecidableEq H] in
theorem ext_owned (owned : ∀ i, x.owned i = y.owned i) (history : x.history = y.history) :
    x = y := by
  cases x
  cases y
  cases funext owned
  cases history
  rfl

def move (x : Holdings ι H) (i j : ι) : Holdings ι H :=
  ⟨Function.update (Function.update x.owned i (x.owned j)) j none, x.history⟩

omit [DecidableEq H] in
theorem owned_move (x : Holdings ι H) (i j k : ι) : (x.move i j).owned k =
    if k = j then none else if k = i then x.owned j else x.owned k := by
  unfold move
  simp only [Function.update_apply]

theorem transfers_move {i : ι} (j : ι) (free : x.owned i = none) :
    ReflTransGen Transfer x (x.move i j) := .single (.hand j free)

def drop (x : Holdings ι H) (i : ι) : Holdings ι H :=
  ⟨Function.update x.owned i none, x.history ++ ((x.owned i).map .released).toList⟩

theorem transfers_drop (x : Holdings ι H) (i : ι) : ReflTransGen Transfer x (x.drop i) := by
  unfold drop
  cases has : x.owned i with
  | none =>
    rw [← has, Function.update_eq_self, has, Option.map_none, Option.toList_none, List.append_nil]
  | some h => exact .single (.release has)

theorem transfers_drops (x : Holdings ι H) (is : List ι) :
    ReflTransGen Transfer x (is.foldl drop x) := by
  induction is generalizing x with
  | nil => exact .refl
  | cons i is ih => exact (transfers_drop x i).trans (ih (x.drop i))

omit [DecidableEq H] in
theorem owned_drop (x : Holdings ι H) (i j : ι) :
    (x.drop i).owned j = if j = i then none else x.owned j := Function.update_apply _ _ _ _

omit [DecidableEq H] in
theorem owned_drops (x : Holdings ι H) (is : List ι) (j : ι) :
    (is.foldl drop x).owned j = if j ∈ is then none else x.owned j := by
  induction is generalizing x with
  | nil => exact (if_neg List.not_mem_nil).symm
  | cons i is ih =>
    rw [List.foldl_cons, ih, owned_drop]
    by_cases same : j = i
    · simp [same]
    · simp [same]

omit [DecidableEq H] in
theorem history_drops (x : Holdings ι H) {is : List ι} (nodup : is.Nodup) :
    (is.foldl drop x).history =
      is.foldl (fun history i => history ++ ((x.owned i).map .released).toList) x.history := by
  induction is generalizing x with
  | nil => rfl
  | cons i is ih =>
    obtain ⟨other, nodup⟩ := List.nodup_cons.mp nodup
    rw [List.foldl_cons, List.foldl_cons, ih _ nodup]
    refine List.foldl_ext _ _ _ fun history j mem => ?_
    have apart : j ≠ i := fun same => other (same ▸ mem)
    rw [owned_drop, if_neg apart]

theorem Sound.transfers (sound : Sound x) (ts : ReflTransGen Transfer x y) :
    Sound y ∧ ∀ h, Lost y h ↔ Lost x h := by
  induction ts with
  | refl => exact ⟨sound, fun _ => Iff.rfl⟩
  | tail _ t ih => exact ⟨ih.1.transfer t, fun h => (ih.1.lost_transfer t h).trans (ih.2 h)⟩

end Holdings

end ArcdpsHealing.Lib
