import ArcdpsHealing.Lib.Chain
import ArcdpsHealing.Lib.Reconcile
import ArcdpsHealing.Settings.State
import Mathlib.Data.Fin.VecNotation
import Std.Data.ExtTreeMap

namespace ArcdpsHealing.Gui

open Lib Relation Settings

/-- A window, with the id that it has while it is shown. -/
structure HealWindowContext extends HealWindowOptions where
  windowId : UInt32 := 0

abbrev Windows (n : Nat) := Fin n → HealWindowContext

def windows {n : Nat} (ids : Fin n → UInt32 × UInt32) : Windows n :=
  fun i => { windowId := (ids i).1, anchorWindowId := (ids i).2 }

variable {n : Nat}

def DistinctIds (ws : Windows n) : Prop :=
  ∀ i j, (ws i).windowId ≠ 0 → (ws i).windowId = (ws j).windowId → i = j

instance (ws : Windows n) : Decidable (DistinctIds ws) :=
  inferInstanceAs (Decidable (∀ i j, _ → _ → i = j))

def Anchors (ws : Windows n) (i j : Fin n) : Prop :=
  (ws i).anchorWindowId ≠ 0 ∧ (ws j).windowId = (ws i).anchorWindowId

instance (ws : Windows n) (i j : Fin n) : Decidable (Anchors ws i j) :=
  inferInstanceAs (Decidable (_ ∧ _))

def assignAnchor (ws : Windows n) (i : Fin n) (anchor : UInt32) : Windows n :=
  Function.update ws i { ws i with anchorWindowId := anchor }

def windowIdToWindowIndex (ws : Windows n) : Std.ExtTreeMap UInt32 (Fin n) :=
  (List.finRange n).foldl
    (fun indices i =>
      if (ws i).windowId ≠ 0 then indices.insertIfNew (ws i).windowId i else indices) ∅

/-- The loop of `FindAndResolveCyclicDependencies`. -/
def traverse (ws : Windows n) (startIndex : Fin n) :
    Nat → List (Fin n) → Fin n → Option (Windows n)
  | 0, _, _ => none
  | fuel + 1, traversedNodes, curIndex =>
    if (ws curIndex).anchorWindowId = 0 then some ws
    else if curIndex ∈ traversedNodes then some (assignAnchor ws startIndex 0)
    else
      match (windowIdToWindowIndex ws)[(ws curIndex).anchorWindowId]? with
      | none => some ws
      | some index => traverse ws startIndex fuel (traversedNodes ++ [curIndex]) index

/-- `none` if the loop is not done after as many rounds as there is fuel for. -/
def findAndResolveCyclicDependencies (fuel : Nat) (ws : Windows n) (startIndex : Fin n) :
    Option (Windows n) :=
  traverse ws startIndex fuel [] startIndex

def Follows (ws : Windows n) (i j : Fin n) : Prop :=
  (ws i).anchorWindowId ≠ 0 ∧ (windowIdToWindowIndex ws)[(ws i).anchorWindowId]? = some j

section Assign

variable (ws : Windows n) (i : Fin n) (anchor : UInt32)

@[simp] theorem assignAnchor_self :
    assignAnchor ws i anchor i = { ws i with anchorWindowId := anchor } :=
  Function.update_self _ _ _

theorem assignAnchor_of_ne {j : Fin n} (other : j ≠ i) : assignAnchor ws i anchor j = ws j :=
  Function.update_of_ne other _ _

@[simp] theorem windowId_assignAnchor (j : Fin n) :
    (assignAnchor ws i anchor j).windowId = (ws j).windowId := by
  by_cases here : j = i
  · subst here
    rw [assignAnchor_self]
  · rw [assignAnchor_of_ne ws i anchor here]

@[simp] theorem assignAnchor_assignAnchor (anchor' : UInt32) :
    assignAnchor (assignAnchor ws i anchor) i anchor' = assignAnchor ws i anchor' := by
  unfold assignAnchor
  rw [Function.update_self, Function.update_idem]

theorem DistinctIds.assignAnchor {ws : Windows n} (distinct : DistinctIds ws) :
    DistinctIds (assignAnchor ws i anchor) := by
  intro j k
  rw [windowId_assignAnchor, windowId_assignAnchor]
  exact distinct j k

theorem anchors_of_assignAnchor {j k : Fin n} (other : j ≠ i)
    (edge : Anchors (assignAnchor ws i anchor) j k) : Anchors ws j k := by
  unfold Anchors at edge
  rw [windowId_assignAnchor, assignAnchor_of_ne ws i anchor other] at edge
  exact edge

theorem not_anchors_assignAnchor_zero (j : Fin n) : ¬ Anchors (assignAnchor ws i 0) i j := by
  rintro ⟨anchored, _⟩
  rw [assignAnchor_self] at anchored
  exact anchored rfl

end Assign

theorem getElem?_windowIdToWindowIndex (ws : Windows n) (id : UInt32) :
    (windowIdToWindowIndex ws)[id]? =
      (List.finRange n).find? fun i => (ws i).windowId ≠ 0 ∧ (ws i).windowId = id := by
  have fold (is : List (Fin n)) (indices : Std.ExtTreeMap UInt32 (Fin n)) :
      (is.foldl (fun indices i =>
        if (ws i).windowId ≠ 0 then indices.insertIfNew (ws i).windowId i else indices)
        indices)[id]? =
      (indices[id]?).or (is.find? fun i => (ws i).windowId ≠ 0 ∧ (ws i).windowId = id) := by
    induction is generalizing indices with
    | nil => exact (Option.or_none).symm
    | cons i is ih =>
      rw [List.foldl_cons, ih]
      by_cases shown : (ws i).windowId = 0
      · rw [if_neg (not_not_intro shown), List.find?_cons_of_neg (by simp [shown])]
      · rw [if_pos shown, Reconcile.getElem?_insertIfNew_eq_or, Option.or_assoc]
        by_cases here : (ws i).windowId = id
        · rw [if_pos here, List.find?_cons_of_pos (by exact decide_eq_true ⟨shown, here⟩)]
          rfl
        · rw [if_neg here, List.find?_cons_of_neg (by simp [here])]
          rfl
  rw [windowIdToWindowIndex, fold, Std.ExtTreeMap.getElem?_empty, Option.none_or]

theorem follows_iff_anchors {ws : Windows n} (distinct : DistinctIds ws) {i j : Fin n} :
    Follows ws i j ↔ Anchors ws i j := by
  refine and_congr_right fun anchored => ?_
  rw [getElem?_windowIdToWindowIndex]
  constructor
  · intro found
    have shows := List.find?_some found
    exact (of_decide_eq_true shows).2
  · intro here
    have shown : (ws j).windowId ≠ 0 := here.symm ▸ anchored
    cases found : (List.finRange n).find? fun k =>
        (ws k).windowId ≠ 0 ∧ (ws k).windowId = (ws i).anchorWindowId with
    | none =>
      exact absurd (decide_eq_true ⟨shown, here⟩)
        (List.find?_eq_none.mp found j (List.mem_finRange j))
    | some k =>
      have shows := List.find?_some found
      have there := (of_decide_eq_true shows).2
      rw [distinct j k shown (here.trans there.symm)]

section Traverse

variable (ws : Windows n) (startIndex : Fin n)

theorem follows_functional {i j k : Fin n} (edge : Follows ws i j) (edge' : Follows ws i k) :
    j = k :=
  Option.some.inj (edge.2.symm.trans edge'.2)

theorem traverse_isSome {fuel : Nat} {traversedNodes : List (Fin n)} {curIndex : Fin n}
    (nodup : traversedNodes.Nodup) (enough : n < traversedNodes.length + fuel) :
    (traverse ws startIndex fuel traversedNodes curIndex).isSome := by
  induction fuel generalizing traversedNodes curIndex with
  | zero =>
    have bound := nodup.length_le_card
    rw [Fintype.card_fin] at bound
    omega
  | succ fuel ih =>
    unfold traverse
    split
    · rfl
    split
    · rfl
    · rename_i fresh
      split
      · rfl
      · refine ih (nodup.append (List.nodup_singleton curIndex) (by simpa using fresh)) ?_
        rw [List.length_append, List.length_singleton]
        omega

theorem traverse_succ {fuel : Nat} {traversedNodes : List (Fin n)} {curIndex : Fin n}
    {resolved : Windows n}
    (done : traverse ws startIndex fuel traversedNodes curIndex = some resolved) :
    traverse ws startIndex (fuel + 1) traversedNodes curIndex = some resolved := by
  induction fuel generalizing traversedNodes curIndex with
  | zero => cases done
  | succ fuel ih =>
    rw [traverse] at done ⊢
    split at done
    · rename_i stop
      rw [if_pos stop]
      exact done
    · rename_i anchored
      rw [if_neg anchored]
      split at done
      · rename_i again
        rw [if_pos again]
        exact done
      · rename_i fresh
        rw [if_neg fresh]
        split at done
        · exact done
        · exact ih done

theorem traverse_cases {fuel : Nat} {traversedNodes : List (Fin n)} {curIndex : Fin n}
    {resolved : Windows n}
    (path : ∀ i ∈ traversedNodes, TransGen (Follows ws) i curIndex)
    (reached : ReflTransGen (Follows ws) startIndex curIndex)
    (done : traverse ws startIndex fuel traversedNodes curIndex = some resolved) :
    resolved = ws ∧ Acc (fun j i => Follows ws i j) curIndex ∨
      resolved = assignAnchor ws startIndex 0 ∧ ¬ CycleFree (Follows ws) startIndex := by
  -- Either the chain ends, or it has come upon a cycle, and the start lets go.
  induction fuel generalizing traversedNodes curIndex with
  | zero => cases done
  | succ fuel ih =>
    rw [traverse] at done
    split at done
    · rename_i stop
      refine .inl ⟨(Option.some.inj done).symm, curIndex, fun j edge => ?_⟩
      exact absurd stop edge.1
    split at done
    · rename_i again
      refine .inr ⟨(Option.some.inj done).symm, fun free => ?_⟩
      exact free curIndex reached (path curIndex again)
    · rename_i anchored fresh
      split at done
      · rename_i unknown
        refine .inl ⟨(Option.some.inj done).symm, curIndex, fun j edge => ?_⟩
        exact absurd (unknown.symm.trans edge.2) nofun
      · rename_i index found
        have edge : Follows ws curIndex index := ⟨anchored, found⟩
        have longer : ∀ i ∈ traversedNodes ++ [curIndex], TransGen (Follows ws) i index := by
          intro i member
          rcases List.mem_append.mp member with member | here
          · exact (path i member).tail edge
          · rw [List.mem_singleton.mp here]
            exact .single edge
        rcases ih longer (reached.tail edge) done with ⟨same, ends⟩ | cyclic
        · refine .inl ⟨same, curIndex, fun j edge' => ?_⟩
          rw [follows_functional ws edge' edge]
          exact ends
        · exact .inr cyclic

theorem findAndResolveCyclicDependencies_eq :
    ∃ resolved,
      (∀ fuel, n < fuel →
        findAndResolveCyclicDependencies fuel ws startIndex = some resolved) ∧
      (resolved = ws ∧ CycleFree (Follows ws) startIndex ∨
        resolved = assignAnchor ws startIndex 0 ∧ ¬ CycleFree (Follows ws) startIndex) := by
  have ends : (traverse ws startIndex (n + 1) [] startIndex).isSome :=
    traverse_isSome ws startIndex List.nodup_nil (by simp)
  obtain ⟨resolved, done⟩ := Option.isSome_iff_exists.mp ends
  refine ⟨resolved, fun fuel enough => ?_, ?_⟩
  · induction fuel, enough using Nat.le_induction with
    | base => exact done
    | succ fuel _ ih => exact traverse_succ ws startIndex ih
  · rcases traverse_cases ws startIndex (by simp) .refl done with ⟨same, ends⟩ | cyclic
    · exact .inl ⟨same, cycleFree_of_acc ends⟩
    · exact .inr cyclic

end Traverse

theorem follows_eq_anchors {ws : Windows n} (distinct : DistinctIds ws) :
    Follows ws = Anchors ws := by
  funext i j
  exact propext (follows_iff_anchors distinct)

theorem anchors_assignAnchor_zero (ws : Windows n) (i : Fin n) {j k : Fin n}
    (edge : Anchors (assignAnchor ws i 0) j k) : Anchors ws j k := by
  have other : j ≠ i := by
    rintro rfl
    exact not_anchors_assignAnchor_zero ws j k edge
  exact anchors_of_assignAnchor ws i 0 other edge

theorem cycleFree_follows_zero (ws : Windows n) (i : Fin n) :
    CycleFree (Follows (assignAnchor ws i 0)) i := by
  refine cycleFree_of_no_edge fun j edge => ?_
  have anchored := edge.1
  rw [assignAnchor_self] at anchored
  exact anchored rfl

/-- From any graph the chain of the start is free of cycles afterwards, and a new
anchor in a graph without cycles is kept unless it closes one. -/
theorem anchor_cycles_resolved (ws : Windows n) (i : Fin n) :
    (∃ resolved,
      (∀ fuel, n < fuel → findAndResolveCyclicDependencies fuel ws i = some resolved) ∧
      CycleFree (Follows resolved) i ∧
      (DistinctIds ws → CycleFree (Anchors resolved) i)) ∧
    ∀ anchor, DistinctIds ws → Acyclic (Anchors ws) →
      let assigned := assignAnchor ws i anchor
      ∃ resolved,
        (∀ fuel, n < fuel →
          findAndResolveCyclicDependencies fuel assigned i = some resolved) ∧
        Acyclic (Anchors resolved) ∧
        (TransGen (Anchors assigned) i i → resolved = assignAnchor ws i 0) ∧
        (¬ TransGen (Anchors assigned) i i → resolved = assigned) := by
  constructor
  · obtain ⟨resolved, done, outcome⟩ := findAndResolveCyclicDependencies_eq ws i
    have free : CycleFree (Follows resolved) i := by
      rcases outcome with ⟨rfl, free⟩ | ⟨rfl, _⟩
      · exact free
      · exact cycleFree_follows_zero ws i
    refine ⟨resolved, done, free, fun distinct => ?_⟩
    have distinct' : DistinctIds resolved := by
      rcases outcome with ⟨rfl, _⟩ | ⟨rfl, _⟩
      · exact distinct
      · exact distinct.assignAnchor i 0
    rw [← follows_eq_anchors distinct']
    exact free
  · intro anchor distinct acyclic assigned
    obtain ⟨resolved, done, outcome⟩ := findAndResolveCyclicDependencies_eq assigned i
    have old (j k : Fin n) : j ≠ i → Anchors assigned j k → Anchors ws j k :=
      anchors_of_assignAnchor ws i anchor
    rw [follows_eq_anchors (distinct.assignAnchor i anchor), assignAnchor_assignAnchor] at outcome
    refine ⟨resolved, done, ?_⟩
    rcases outcome with ⟨rfl, free⟩ | ⟨rfl, cyclic⟩
    · have unclosed : ¬ TransGen (Anchors assigned) i i := free i .refl
      exact ⟨acyclic.of_old old unclosed, fun closed => absurd closed unclosed, fun _ => rfl⟩
    · refine ⟨acyclic.mono fun j k => anchors_assignAnchor_zero ws i, fun _ => rfl,
        fun unclosed => ?_⟩
      exact absurd (fun j _ => acyclic.of_old old unclosed j) cyclic

theorem anchor_cycles_resolved_pair :
    ∃ resolved,
      findAndResolveCyclicDependencies 3 (assignAnchor (windows ![(100, 200), (200, 0)]) 1 100) 1 =
        some resolved ∧
      Acyclic (Anchors resolved) ∧ (resolved 1).anchorWindowId = 0 := by
  have distinct : DistinctIds (windows ![(100, 200), (200, 0)]) := by decide
  have acyclic : Acyclic (Anchors (windows ![(100, 200), (200, 0)])) :=
    .of_lt (f := fun i => 1 - i.val) (by decide)
  obtain ⟨resolved, done, acyclic', reset, -⟩ :=
    (anchor_cycles_resolved (windows ![(100, 200), (200, 0)]) 1).2 100 distinct acyclic
  have closed : resolved = _ := reset (.tail (.single (by decide : Anchors _ 1 0)) (by decide))
  refine ⟨resolved, done 3 (by decide), acyclic', ?_⟩
  rw [closed, assignAnchor_self]

/-- A chain into a cycle that does not contain the start. -/
example : (findAndResolveCyclicDependencies 5
    (windows ![(10, 20), (20, 30), (30, 40), (40, 20)]) 0).map (fun ws => (ws 0).anchorWindowId) =
      some 0 := by
  decide

end ArcdpsHealing.Gui
