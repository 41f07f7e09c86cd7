import ArcdpsHealing.Lib.Run
import ArcdpsHealing.Lib.SharedMap
import ArcdpsHealing.Processor.EventProcessor
import ArcdpsHealing.Processor.Sessions

namespace ArcdpsHealing.Processor

open Arcdps Lib PlayerStats

inductive Holder
  | lookedUp
  | applied
  | copied
  deriving DecidableEq

abbrev PeerStates := SharedMap UInt64 PlayerStats Holder

namespace PeerStates

def empty : PeerStates := ⟨fun _ => {}, 0, ∅, []⟩

variable (x : PeerStates)

def stores (object : Nat) : Bool := x.stored.toList.any (·.2 = object)

/-- The sweep of `LocalCombat`, given what `use_count()` says of each object. -/
def sweep (observed : Nat → Nat) : PeerStates :=
  { x.eraseIf fun object => (x.heap object).resetIfNotInCombat.1 ∧ observed object = 1 with
    heap := fun object =>
      if x.stores object = true then (x.heap object).resetIfNotInCombat.2 else x.heap object }

/-- The implicit exit of `AreaCombat`. -/
def deregister (uniqueId time : UInt64) : PeerStates :=
  match x.stored[uniqueId]? with
  | some object => x.modify object fun s => (s.exitedCombat time).2
  | none => x

inductive Label
  | lookUp (uniqueId : UInt64)
  | apply (uniqueId : UInt64) (object : Nat) (operation : Call)
  | drop
  | sweep
  | deregister (uniqueId time : UInt64)
  | copy
  | read (object : Nat)
  deriving DecidableEq

/-- `use_count()` may be read higher than it is, since references are dropped
without the lock. -/
inductive Step (x : PeerStates) : Label → PeerStates → Prop
  | lookUp (uniqueId : UInt64) : Step x (.lookUp uniqueId) (x.acquire .lookedUp uniqueId {})
  | apply {uniqueId : UInt64} {object : Nat} (operation : Call)
      (held : ⟨.lookedUp, uniqueId, object⟩ ∈ x.refs) :
      Step x (.apply uniqueId object operation)
        ((x.pass ⟨.lookedUp, uniqueId, object⟩ .applied).modify object (·.call operation))
  | drop {ref : Ref UInt64 Holder} (held : ref ∈ x.refs) : Step x .drop (x.release ref)
  | sweep (observed : Nat → Nat) (counted : ∀ object, x.useCount object ≤ observed object) :
      Step x .sweep (PeerStates.sweep x observed)
  | deregister (uniqueId time : UInt64) :
      Step x (.deregister uniqueId time) (PeerStates.deregister x uniqueId time)
  | copy : Step x .copy (x.acquireAll .copied)
  | read {uniqueId : UInt64} {object : Nat} (held : ⟨.copied, uniqueId, object⟩ ∈ x.refs) :
      Step x (.read object) x

variable {x} {y : PeerStates} {l : Label}

theorem sound_sweep (h : x.Sound) {observed : Nat → Nat}
    (counted : ∀ object, x.useCount object ≤ observed object) : (sweep x observed).Sound := by
  have erased : (x.eraseIf fun object =>
      (x.heap object).resetIfNotInCombat.1 ∧ observed object = 1).Sound := by
    apply h.eraseIf
    intro uniqueId object _ test
    simp only [decide_eq_true_eq] at test
    exact (counted object).trans (le_of_eq test.2)
  exact ⟨erased.held, erased.allocated, erased.distinct⟩

theorem sound_step (h : x.Sound) (step : Step x l y) : y.Sound := by
  cases step with
  | lookUp uniqueId => exact h.acquire .lookedUp uniqueId {}
  | apply operation held => exact (h.pass held .applied).modify _ _
  | drop held => exact h.release _
  | sweep observed counted => exact sound_sweep h counted
  | deregister uniqueId time =>
    unfold deregister
    split
    · exact h.modify _ _
    · exact h
  | copy => exact h.acquireAll .copied
  | read held => exact h

theorem sound_run {ls : List Label} (run : Run Step empty ls x) : x.Sound :=
  run.invariant (fun _ => True) (fun h _ step => sound_step h step)
    (SharedMap.Sound.empty _) (fun _ _ => trivial)

/-- What a peer's operation is applied to is stored under the peer's id, and the
operation shows in that entry and in no other. -/
theorem applies_to_stored {ls : List Label} (run : Run Step empty ls x) {uniqueId : UInt64}
    {object : Nat} {operation : Call} (step : Step x (.apply uniqueId object operation) y) :
    x.stored[uniqueId]? = some object ∧ y.stored[uniqueId]? = some object ∧
      ∀ other, y.value other =
        if other = uniqueId then (x.value other).map (·.call operation) else x.value other := by
  have sound := sound_run run
  cases step with
  | apply operation held =>
    have here := sound.held _ held
    exact ⟨here, here, (sound.pass held .applied).value_modify here _⟩

theorem applies_to_stored_swept :
    let found := empty.acquire .lookedUp 7 {}
    (sweep found found.useCount).stored[(7 : UInt64)]? = some 0 := by
  have found : Run Step empty [.lookUp 7] _ := Run.nil.snoc (.lookUp 7)
  have swept := found.snoc (.sweep _ fun _ => le_refl _)
  exact (applies_to_stored swept (.apply (.enteredCombat 5 1) (by decide))).1

theorem value_sweep (observed : Nat → Nat) {env : Ambient}
    {peers : Std.ExtTreeMap UInt64 PlayerStats}
    (agree : ∀ uniqueId, peers[uniqueId]? = x.value uniqueId)
    (referenced : ∀ uniqueId object, x.stored[uniqueId]? = some object →
      (env.referenced uniqueId = false ↔ observed object = 1)) (uniqueId : UInt64) :
    (EventProcessor.sweepPeers env peers)[uniqueId]? = (sweep x observed).value uniqueId := by
  unfold EventProcessor.sweepPeers SharedMap.value sweep SharedMap.eraseIf
  rw [Std.ExtTreeMap.getElem?_filterMap', agree, SharedMap.value,
    Std.ExtTreeMap.getElem?_filter']
  cases here : x.stored[uniqueId]? with
  | none => rfl
  | some object =>
    have stored : x.stores object = true :=
      List.any_eq_true.mpr ⟨(uniqueId, object),
        Std.ExtTreeMap.mem_toList_iff_getElem?_eq_some.mpr here, by simp⟩
    have once := referenced uniqueId object here
    by_cases erased : (x.heap object).resetIfNotInCombat.1 = true ∧ observed object = 1
    · simp [erased, once.mpr erased.2]
    · simp [erased, once, stored]
      simpa [or_iff_not_imp_left] using erased

end PeerStates

end ArcdpsHealing.Processor
