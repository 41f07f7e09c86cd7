import ArcdpsHealing.Processor.PeerCopy
import ArcdpsHealing.Processor.PeerReset

/-! What a peer shows of a player, and what else than the player's events bears on it. -/

namespace ArcdpsHealing.Processor

open Arcdps PlayerStats EventProcessor

/-- A copy is left alone, or cleared when the player is out of combat. -/
inductive Kept : PlayerStats → PlayerStats → Prop
  | same (s : PlayerStats) : Kept s s
  | cleared {s : PlayerStats} (out : s.IsOutOfCombat) (subGroup : UInt16) :
      Kept s { subGroup := subGroup }

theorem Kept.eq_of_inCombat {s s' : PlayerStats} (kept : Kept s s')
    (inCombat : ¬ s.IsOutOfCombat) : s' = s := by
  cases kept with
  | same => rfl
  | cleared out => exact absurd out inCombat

/-- Not an event of the player, who does not leave in combat either. -/
def Foreign (r : EventProcessor) (u : UInt64) : HandlerCall → Prop
  | .areaAgent _ source _ =>
    source.elite = 0 → source.prof = 0 → source.id = u → (r.peerState u).IsOutOfCombat
  | .areaCombat _ _ _ => True
  | .localCombat _ => True
  | .peerCombat _ peerInstanceId => r.agentTable.getUniqueId peerInstanceId false ≠ some u

/-- No combat event of self, who does not leave in combat either. -/
def Idle (s : EventProcessor) : HandlerCall → Prop
  | .areaAgent _ _ _ => True
  | .areaCombat _ _ _ => True
  | .localCombat (.agent _ source _) =>
    source.elite = 0 → source.prof = 0 → source.id = s.selfUniqueId → s.localState.IsOutOfCombat
  | .localCombat (.combat _) => False
  | .peerCombat _ _ => True

variable (c : Enums) {r s : EventProcessor} {u : UInt64} {x : HandlerCall}

section Kept

theorem kept_sweepPeers (env : Ambient) {r' : EventProcessor}
    (swept : r'.peerStates = sweepPeers env r.peerStates) :
    Kept (r.peerState u) (r'.peerState u) := by
  unfold EventProcessor.peerState
  rw [swept, getElem?_sweepPeers]
  cases r.peerStates[u]? with
  | none => exact .same _
  | some stats =>
    rw [Option.bind_some, cleared]
    by_cases out : stats.IsOutOfCombat
    · rw [if_pos out]
      split
      · exact .cleared out _
      · exact .cleared out 0
    · rw [if_neg out]
      exact .same _

theorem kept_areaAgent {env : Ambient} {source destination : Ag}
    (foreign : Foreign r u (.areaAgent env source destination)) :
    Kept (r.peerState u) ((r.areaAgent env source destination).peerState u) := by
  unfold areaAgent
  split
  · exact .same _
  rename_i elite
  split
  · dsimp only
    split <;> exact .same _
  rename_i prof
  split
  · exact .same _
  rename_i stats known
  by_cases left : source.id = u
  · subst left
    have same : r.peerState source.id = stats := by rw [EventProcessor.peerState, known]; rfl
    have out : stats.IsOutOfCombat := same ▸ foreign (not_not.mp elite) (not_not.mp prof) rfl
    rw [exitedCombat_of_out out, same]
    simp only [EventProcessor.peerState, Std.ExtTreeMap.getElem?_insert_self, Option.getD_some]
    exact .same _
  · have other : ¬ compare source.id u = .eq := mt Std.LawfulEqCmp.eq_of_compare left
    unfold EventProcessor.peerState
    rw [Std.ExtTreeMap.getElem?_insert, if_neg other]
    exact .same _

theorem kept_handle (foreign : Foreign r u x) :
    Kept (r.peerState u) ((r.handle c x).peerState u) := by
  cases x with
  | areaAgent => exact kept_areaAgent foreign
  | areaCombat event source destination =>
    have same : (r.areaCombat c event source destination).peerStates = r.peerStates := by
      unfold areaCombat
      dsimp only
      split
      · split <;> rfl
      · rfl
    unfold EventProcessor.peerState
    change Kept _ (((r.areaCombat c event source destination).peerStates[u]?).getD {})
    rw [same]
    exact .same _
  | localCombat x =>
    by_cases enters : x.Enters c
    · exact kept_sweepPeers x.env (peerStates_localCallback_of_enters c enters)
    · have same := peerStates_localCallback_of_not_enters c (p := r) enters
      unfold EventProcessor.peerState
      change Kept _ (((r.localCallback c x).peerStates[u]?).getD {})
      rw [same]
      exact .same _
  | peerCombat event peerInstanceId =>
    have same : (r.peerCombat c event peerInstanceId).peerState u = r.peerState u :=
      peerState_peerCombat_of_ne foreign
    change Kept _ ((r.peerCombat c event peerInstanceId).peerState u)
    rw [same]
    exact .same _

theorem localState_handle (idle : Idle s x) : (s.handle c x).localState = s.localState := by
  cases x with
  | areaAgent env source destination =>
    change (s.areaAgent env source destination).localState = _
    unfold areaAgent
    split
    · rfl
    split
    · dsimp only
      split <;> rfl
    · split <;> rfl
  | areaCombat event source destination =>
    change (s.areaCombat c event source destination).localState = _
    unfold areaCombat
    dsimp only
    split
    · split <;> rfl
    · rfl
  | localCombat x =>
    cases x with
    | agent env source destination =>
      obtain ⟨table, uniqueId, eq⟩ := s.localAgent_eq env source destination
      change (s.localAgent env source destination).localState = _
      rw [eq]
      dsimp only
      split
      · rename_i leaves
        rw [exitedCombat_of_out (idle leaves.1 leaves.2.1 leaves.2.2)]
      · rfl
    | combat => exact idle.elim
  | peerCombat event peerInstanceId =>
    change (s.peerCombat c event peerInstanceId).localState = _
    unfold peerCombat
    dsimp only
    split <;> rfl

end Kept

/-- What a peer shows of a player: statistics, or nothing if the player was out of
combat when the peer entered combat. -/
inductive Shows (budgetMode : Bool) (own copy : PlayerStats) : Prop
  | copied (agrees : Agrees budgetMode own copy)
  | cleared (out : own.IsOutOfCombat) (subGroup : UInt16) (none : copy = { subGroup := subGroup })

namespace Shows

variable {budgetMode : Bool} {own copy copy' : PlayerStats} {alike : Prop} {e : CbtEvent}
  {mine full spared : Option PlayerStats.Call} (h : Shows budgetMode own copy)

theorem refl (s : PlayerStats) : Shows budgetMode s s := .copied (.refl s)

include h

theorem kept (kept : Kept copy copy') : Shows budgetMode own copy' := by
  cases kept with
  | same => exact h
  | cleared out subGroup =>
    refine .cleared ?_ subGroup rfl
    cases h with
    | copied agrees => exact agrees.outOfCombat.mp out
    | cleared out' => exact out'

theorem moves (moves : Moves alike own e mine full spared) (same : alike) :
    Shows budgetMode (mine.toList.foldl PlayerStats.call own)
      ((if budgetMode = true then spared else full).toList.foldl PlayerStats.call copy) := by
  -- Nothing but a combat enter bears on those out of combat, and that one is the same for both.
  cases h with
  | copied agrees => exact .copied (agrees.moves moves same)
  | cleared out subGroup none =>
    have h : Shows budgetMode own copy := .cleared out subGroup none
    have out' : copy.IsOutOfCombat := .inl (by rw [none])
    cases moves with
    | nothing =>
      rw [ite_self]
      exact h
    | enters subGroup' =>
      rw [ite_self]
      change Shows budgetMode (own.enteredCombat e.time subGroup') (copy.enteredCombat _ _)
      rw [enteredCombat_of_out out, enteredCombat_of_out out']
      exact .refl _
    | exits =>
      rw [ite_self]
      change Shows budgetMode (own.exitedCombat e.time).2 (copy.exitedCombat e.time _).2
      rw [exitedCombat_of_out out, exitedCombat_of_out out']
      exact h
    | damages =>
      change Shows budgetMode (own.damageEvent e.time) _
      rw [damageEvent_of_out out]
      split
      · exact h
      · change Shows budgetMode own (copy.damageEvent e.time)
        rw [damageEvent_of_out out']
        exact h
    | heals mine theirs matching =>
      rw [ite_self, matching same]
      cases mine with
      | none => exact h
      | some destination =>
        simp only [Option.map_some, Option.toList_some, List.foldl_cons, List.foldl_nil,
          call_recorded]
        rw [record_of_out out, record_of_out out']
        exact h

theorem ownDamageEvent (on : budgetMode = true) (time : UInt64) :
    Shows budgetMode (own.damageEvent time) copy := by
  cases h with
  | copied agrees => exact .copied (agrees.ownDamageEvent on time)
  | cleared out subGroup none =>
    rw [damageEvent_of_out out]
    exact .cleared out subGroup none

end Shows

section Relay

variable {budgetMode : Bool} {i : UInt16} {p : Pair} {x : Callback}

theorem Shows.relay (h : Shows budgetMode p.sender.localState (p.receiver.peerState u))
    (reg : Registered i u p) (same : Consistent i p.receiver.agentTable x) :
    Shows budgetMode (relay c budgetMode i p x).sender.localState
      ((relay c budgetMode i p x).receiver.peerState u) := by
  obtain ⟨mine, full, spared, moves, own, copy⟩ := relay_calls c budgetMode reg.player same.owned
  rw [own, copy]
  exact h.moves moves ⟨reg.self, same.known⟩

end Relay

end ArcdpsHealing.Processor
