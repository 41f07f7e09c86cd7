import Mathlib.Logic.Function.Basic
import Std.Data.ExtTreeMap

/-! A map of shared objects, with the references to them that are held outside
of it. -/

universe u v w

namespace ArcdpsHealing.Lib

open Std

/-- A reference: who holds it, the key that it was looked up by, and the object. -/
structure Ref (κ : Type u) (ι : Type w) where
  holder : ι
  key : κ
  object : Nat
  deriving DecidableEq

structure SharedMap (κ : Type u) (α : Type v) (ι : Type w) [Ord κ] where
  heap : Nat → α
  next : Nat
  stored : ExtTreeMap κ Nat
  refs : List (Ref κ ι)

namespace SharedMap

variable {κ : Type u} {α : Type v} {ι : Type w} [Ord κ] [TransOrd κ] (m : SharedMap κ α ι)

def useCount (object : Nat) : Nat :=
  m.stored.toList.countP (·.2 = object) + m.refs.countP (·.object = object)

def acquire (holder : ι) (key : κ) (fresh : α) : SharedMap κ α ι :=
  match m.stored[key]? with
  | some object => { m with refs := ⟨holder, key, object⟩ :: m.refs }
  | none =>
    { heap := Function.update m.heap m.next fresh
      next := m.next + 1
      stored := m.stored.insert key m.next
      refs := ⟨holder, key, m.next⟩ :: m.refs }

def acquireAll (holder : ι) : SharedMap κ α ι :=
  { m with refs := m.stored.toList.map (fun entry => ⟨holder, entry.1, entry.2⟩) ++ m.refs }

def release [DecidableEq κ] [DecidableEq ι] (ref : Ref κ ι) : SharedMap κ α ι :=
  { m with refs := m.refs.erase ref }

def pass [DecidableEq κ] [DecidableEq ι] (ref : Ref κ ι) (holder : ι) : SharedMap κ α ι :=
  { m with refs := { ref with holder := holder } :: m.refs.erase ref }

def modify (object : Nat) (f : α → α) : SharedMap κ α ι :=
  { m with heap := Function.update m.heap object (f (m.heap object)) }

def eraseIf (test : Nat → Bool) : SharedMap κ α ι :=
  { m with stored := m.stored.filter fun _ object => !test object }

def value (key : κ) : Option α := (m.stored[key]?).map m.heap

structure Sound (m : SharedMap κ α ι) : Prop where
  held : ∀ ref ∈ m.refs, m.stored[ref.key]? = some ref.object
  allocated : ∀ (key : κ) (object : Nat), m.stored[key]? = some object → object < m.next
  distinct : ∀ (key key' : κ) (object : Nat), m.stored[key]? = some object →
    m.stored[key']? = some object → key = key'

variable {m}

theorem Sound.empty (heap : Nat → α) : Sound (⟨heap, 0, ∅, []⟩ : SharedMap κ α ι) where
  held ref member := by cases member
  allocated key object here := by simp at here
  distinct key key' object here := by simp at here

theorem Sound.release [DecidableEq κ] [DecidableEq ι] (h : Sound m) (ref : Ref κ ι) :
    Sound (m.release ref) where
  held other member := h.held other (List.mem_of_mem_erase member)
  allocated := h.allocated
  distinct := h.distinct

theorem Sound.pass [DecidableEq κ] [DecidableEq ι] (h : Sound m) {ref : Ref κ ι}
    (held : ref ∈ m.refs) (holder : ι) : Sound (m.pass ref holder) := by
  refine ⟨?_, h.allocated, h.distinct⟩
  intro other member
  rcases List.mem_cons.mp member with rfl | member
  · exact h.held ref held
  · exact h.held other (List.mem_of_mem_erase member)

theorem Sound.modify (h : Sound m) (object : Nat) (f : α → α) : Sound (m.modify object f) :=
  ⟨h.held, h.allocated, h.distinct⟩

theorem Sound.value_modify [DecidableEq κ] (h : Sound m) {key : κ} {object : Nat}
    (here : m.stored[key]? = some object) (f : α → α) (key' : κ) :
    (m.modify object f).value key' =
      if key' = key then (m.value key').map f else m.value key' := by
  unfold value SharedMap.modify
  by_cases same : key' = key
  · subst same
    simp [here]
  · rw [if_neg same]
    cases there : m.stored[key']? with
    | none => rfl
    | some object' =>
      have other : object' ≠ object := by
        rintro rfl
        exact same (h.distinct key' key object' there here)
      simp [other]

variable [LawfulEqOrd κ]

theorem two_le_useCount {key : κ} {object : Nat} (here : m.stored[key]? = some object)
    {ref : Ref κ ι} (held : ref ∈ m.refs) (same : ref.object = object) :
    2 ≤ m.useCount object := by
  have entry : 0 < m.stored.toList.countP (·.2 = object) :=
    List.countP_pos_iff.mpr
      ⟨(key, object), ExtTreeMap.mem_toList_iff_getElem?_eq_some.mpr here, by simp⟩
  have reference : 0 < m.refs.countP (·.object = object) :=
    List.countP_pos_iff.mpr ⟨ref, held, by simp [same]⟩
  unfold useCount
  omega

theorem Sound.acquire (h : Sound m) (holder : ι) (key : κ) (fresh : α) :
    Sound (m.acquire holder key fresh) := by
  unfold SharedMap.acquire
  cases here : m.stored[key]? with
  | some object =>
    refine ⟨?_, h.allocated, h.distinct⟩
    intro ref member
    rcases List.mem_cons.mp member with rfl | member
    · exact here
    · exact h.held ref member
  | none =>
    have lookup (key' : κ) : (m.stored.insert key m.next)[key']? =
        if compare key key' = .eq then some m.next else m.stored[key']? :=
      ExtTreeMap.getElem?_insert
    have old (key' : κ) (object : Nat) (stored : m.stored[key']? = some object) :
        compare key key' ≠ .eq ∧ object < m.next := by
      refine ⟨?_, h.allocated key' object stored⟩
      intro same
      rw [← LawfulEqCmp.eq_of_compare same, here] at stored
      cases stored
    constructor
    · intro ref member
      simp only [lookup]
      rcases List.mem_cons.mp member with rfl | member
      · exact if_pos ReflCmp.compare_self
      · have stored := h.held ref member
        rw [if_neg (old _ _ stored).1, stored]
    · intro key' object stored
      simp only [lookup] at stored
      split at stored
      · cases stored
        exact Nat.lt_succ_self m.next
      · exact Nat.lt_succ_of_lt (old _ _ stored).2
    · intro key₁ key₂ object stored₁ stored₂
      simp only [lookup] at stored₁ stored₂
      split at stored₁ <;> split at stored₂
      case isTrue.isTrue same₁ same₂ =>
        exact (LawfulEqCmp.eq_of_compare same₁).symm.trans (LawfulEqCmp.eq_of_compare same₂)
      case isTrue.isFalse =>
        cases stored₁
        exact absurd (old _ _ stored₂).2 (Nat.lt_irrefl _)
      case isFalse.isTrue =>
        cases stored₂
        exact absurd (old _ _ stored₁).2 (Nat.lt_irrefl _)
      case isFalse.isFalse => exact h.distinct key₁ key₂ object stored₁ stored₂

theorem Sound.acquireAll (h : Sound m) (holder : ι) : Sound (m.acquireAll holder) := by
  refine ⟨?_, h.allocated, h.distinct⟩
  intro ref member
  rcases List.mem_append.mp member with member | member
  · obtain ⟨entry, here, rfl⟩ := List.mem_map.mp member
    exact ExtTreeMap.mem_toList_iff_getElem?_eq_some.mp here
  · exact h.held ref member

theorem Sound.eraseIf (h : Sound m) {test : Nat → Bool}
    (unshared : ∀ (key : κ) (object : Nat), m.stored[key]? = some object → test object = true →
      m.useCount object ≤ 1) :
    Sound (m.eraseIf test) := by
  have lookup (key : κ) (object : Nat) : (m.eraseIf test).stored[key]? = some object ↔
      m.stored[key]? = some object ∧ test object = false := by
    simp [SharedMap.eraseIf, Option.filter_eq_some_iff]
  constructor
  · intro ref member
    have here := h.held ref member
    refine (lookup _ _).mpr ⟨here, ?_⟩
    cases erased : test ref.object with
    | false => rfl
    | true =>
      have shared := two_le_useCount here member rfl
      have := unshared _ _ here erased
      omega
  · intro key object here
    exact h.allocated key object ((lookup _ _).mp here).1
  · intro key key' object here here'
    exact h.distinct key key' object ((lookup _ _).mp here).1 ((lookup _ _).mp here').1

end SharedMap

end ArcdpsHealing.Lib
