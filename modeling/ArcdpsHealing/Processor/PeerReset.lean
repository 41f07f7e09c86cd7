import ArcdpsHealing.Processor.Attribution

namespace ArcdpsHealing.Processor

open Arcdps PlayerStats EventProcessor

variable (c : Enums)

/-- A call of one of the three handlers. -/
inductive HandlerCall
  | areaAgent (env : Ambient) (source destination : Ag)
  | areaCombat (event : CbtEvent) (source destination : Ag)
  | localCombat (x : LocalCallback)
  | peerCombat (event : CbtEvent) (peerInstanceId : UInt16)

def EventProcessor.handle (p : EventProcessor) : HandlerCall → EventProcessor
  | .areaAgent env source destination => p.areaAgent env source destination
  | .areaCombat event source destination => p.areaCombat c event source destination
  | .localCombat x => p.localCallback c x
  | .peerCombat event peerInstanceId => p.peerCombat c event peerInstanceId

def handled (calls : List HandlerCall) : EventProcessor := calls.foldl (handle c) {}

def LocalCallback.Enters : LocalCallback → Prop
  | .agent _ _ _ => False
  | .combat x => x.event.isStatechange = c.enterCombat

def LocalCallback.source : LocalCallback → Ag
  | .agent _ source _ => source
  | .combat x => x.source

def LocalCallback.env : LocalCallback → Ambient
  | .agent env _ _ => env
  | .combat x => x.env

def cleared (env : Ambient) (u : UInt64) (s : PlayerStats) : Option PlayerStats :=
  if s.IsOutOfCombat then
    if env.referenced u then some { subGroup := s.subGroup } else none
  else some s

/-- The peers are cleared when self enters combat, and not touched otherwise. -/
structure PeersSpared (p : EventProcessor) (x : LocalCallback) : Prop where
  frame : ¬ (x.Enters c ∧ x.source.self ≠ 0) → (p.localCallback c x).peerStates = p.peerStates
  clears : x.Enters c ∧ x.source.self ≠ 0 →
    ∀ u, (p.localCallback c x).peerStates[u]? = (p.peerStates[u]?).bind (cleared x.env u)

/-- If somebody else enters combat, all peers are in combat, or cleared already
and referenced. -/
def NothingToClear (p : EventProcessor) (x : LocalCallback) : Prop :=
  x.Enters c → x.source.self = 0 → ∀ u s, p.peerStates[u]? = some s →
    s.IsOutOfCombat → s = { subGroup := s.subGroup } ∧ x.env.referenced u = true

theorem getElem?_sweepPeers (env : Ambient) (peers : Std.ExtTreeMap UInt64 PlayerStats)
    (u : UInt64) : (sweepPeers env peers)[u]? = (peers[u]?).bind (cleared env u) := by
  unfold sweepPeers
  rw [Std.ExtTreeMap.getElem?_filterMap']
  congr 1
  funext s
  unfold cleared
  by_cases out : s.IsOutOfCombat
  · rw [resetIfNotInCombat_of_out out, if_pos out]
    cases env.referenced u <;> rfl
  · rw [resetIfNotInCombat_of_inCombat out, if_neg out]
    rfl

theorem peerStates_localAgent (p : EventProcessor) (env : Ambient) (source destination : Ag) :
    (p.localAgent env source destination).peerStates = p.peerStates := by
  obtain ⟨table, uniqueId, eq⟩ := p.localAgent_eq env source destination
  rw [eq]

theorem peerStates_localCallback_of_enters {p : EventProcessor} {x : LocalCallback}
    (enters : x.Enters c) :
    (p.localCallback c x).peerStates = sweepPeers x.env p.peerStates := by
  cases x with
  | agent => exact enters.elim
  | combat x =>
    exact (peerStates_localCombat c p x.env x.event x.source x.destination).trans (if_pos enters)

theorem peerStates_localCallback_of_not_enters {p : EventProcessor} {x : LocalCallback}
    (enters : ¬ x.Enters c) : (p.localCallback c x).peerStates = p.peerStates := by
  cases x with
  | agent env source destination => exact peerStates_localAgent p env source destination
  | combat x =>
    exact (peerStates_localCombat c p x.env x.event x.source x.destination).trans (if_neg enters)

theorem sweepPeers_eq_self_iff {env : Ambient} {peers : Std.ExtTreeMap UInt64 PlayerStats} :
    sweepPeers env peers = peers ↔
      ∀ (u : UInt64) (s : PlayerStats), peers[u]? = some s → s.IsOutOfCombat →
        s = { subGroup := s.subGroup } ∧ env.referenced u = true := by
  constructor
  · intro same u s known out
    have here := getElem?_sweepPeers env peers u
    rw [same, known, Option.bind_some, cleared, if_pos out] at here
    split at here
    case isTrue referenced => exact ⟨Option.some.inj here, referenced⟩
    case isFalse => nomatch here
  · intro nothing
    refine Std.ExtTreeMap.ext_getElem? fun u => ?_
    rw [getElem?_sweepPeers]
    cases known : peers[u]? with
    | none => rfl
    | some s =>
      rw [Option.bind_some, cleared]
      split
      case isTrue out =>
        obtain ⟨clear, referenced⟩ := nothing u s known out
        rw [if_pos referenced, ← clear]
      case isFalse => rfl

theorem peersSpared_iff_nothingToClear (calls : List HandlerCall) (x : LocalCallback) :
    PeersSpared c (handled c calls) x ↔ NothingToClear c (handled c calls) x := by
  generalize handled c calls = p
  unfold NothingToClear
  by_cases enters : x.Enters c
  · have swept := peerStates_localCallback_of_enters c (p := p) enters
    by_cases self : x.source.self = 0
    · constructor
      · intro spared _ _
        have same := spared.frame fun own => own.2 self
        rw [swept] at same
        exact sweepPeers_eq_self_iff.mp same
      · intro nothing
        refine ⟨fun _ => ?_, fun own => absurd self own.2⟩
        rw [swept]
        exact sweepPeers_eq_self_iff.mpr (nothing enters self)
    · refine iff_of_true ⟨fun other => absurd ⟨enters, self⟩ other, fun _ u => ?_⟩
        fun _ zero => absurd zero self
      rw [swept, getElem?_sweepPeers]
  · exact iff_of_true ⟨fun _ => peerStates_localCallback_of_not_enters c enters,
      fun self => absurd self.1 enters⟩ fun enter => absurd enter enters

/-- Player 2001 has left combat when agent 88 enters it. -/
theorem peersSpared_fails_other :
    let player : Ag := ⟨some [65], 2001, 1, 0, 0, 1⟩
    let account : Ag := ⟨some [66], 101, 1, 0, 0, 1⟩
    let enter := { fightEvent 10 0 1 0 with srcInstid := 101 }
    let exit := { fightEvent 40 0 2 0 with srcInstid := 101, iff := 0 }
    let before := [.areaAgent {} player account, .peerCombat enter 101, .peerCombat exit 101]
    let x := .combat ⟨fightEvent 50 0 1 0, ⟨some [67], 88, 1, 0, 0, 1⟩, account, {}⟩
    (handled .documented before).peerStates[(2001 : UInt64)]? = some ⟨10, 40, 0, 88, []⟩ ∧
      ¬ (x.Enters .documented ∧ x.source.self ≠ 0) ∧
      ¬ PeersSpared .documented (handled .documented before) x := by
  intro player account enter exit before x
  have enters : x.Enters .documented := rfl
  have other : ¬ (x.Enters .documented ∧ x.source.self ≠ 0) := fun own => own.2 rfl
  refine ⟨by decide, other, fun spared => ?_⟩
  have swept := (peerStates_localCallback_of_enters _ enters).symm.trans (spared.frame other)
  have out : IsOutOfCombat ⟨10, 40, 0, 88, []⟩ := by decide
  have kept := (sweepPeers_eq_self_iff.mp swept 2001 ⟨10, 40, 0, 88, []⟩ (by decide) out).2
  exact absurd kept (by decide)

end ArcdpsHealing.Processor
