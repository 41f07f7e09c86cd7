import ArcdpsHealing.Lib.Reconcile
import ArcdpsHealing.Networking.LocalEvent
import ArcdpsHealing.Networking.Messages

namespace ArcdpsHealing.Networking

open Arcdps

structure PeerInfo where
  instanceId : UInt16
  accountName : AccountName
  deriving DecidableEq

/-- `mPeers`, and `RegisteredPeers` of a connection: by unique id. -/
abbrev PeerMap := Std.ExtTreeMap UInt64 PeerInfo

/-- `mAccountName` and `mInstanceId`. -/
structure SelfInfo where
  accountName : AccountName := []
  instanceId : UInt16 := 0
  deriving DecidableEq

/-- `ProcessLocalEvent` without an event. -/
def processLocalAgent (info : SelfInfo) (source destination : Ag) : SelfInfo :=
  if source.elite ≠ 0 then info
  else if source.prof ≠ 0 then
    if destination.self ≠ 0 then ⟨destination.name.getD [], destination.id.toUInt16⟩ else info
  else info

/-- `ProcessAreaEvent` without an event. A peer that is known keeps its entry. -/
def processAreaAgent (mPeers : PeerMap) (source destination : Ag) : PeerMap :=
  if source.elite ≠ 0 then mPeers
  else if source.prof ≠ 0 then
    match destination.name with
    | none => mPeers
    | some name =>
      if destination.self = 0 ∧ name ≠ [] then
        mPeers.insertIfNew source.id ⟨destination.id.toUInt16, name⟩
      else mPeers
  else mPeers.erase source.id

/-- The call data that ask for a write, apart from `Connect`. -/
inductive CallData
  | registerSelf (selfInstanceId : UInt16) (selfAccountName : AccountName)
  | addPeer (peerInstanceId : UInt16) (peerAccountName : AccountName)
  | removePeer (peerInstanceId : UInt16)
  | combatEvent (event : CbtEvent)
  deriving DecidableEq

/-- The message that `SendEvent` writes, given what the connection is registered
as, and what it is registered as from then on. -/
def CallData.message (registeredInstanceId : UInt16) : CallData → Message × UInt16
  | .registerSelf id name =>
    if registeredInstanceId = 0 then (.registerSelf id name, id) else (.setSelfId id, id)
  | .addPeer id name => (.addPeer id name, registeredInstanceId)
  | .removePeer id => (.removePeer id, registeredInstanceId)
  | .combatEvent event => (.combatEvent event, registeredInstanceId)

/-- What `TryGetPeerEvent` returns, along with the new `RegisteredPeers`. -/
inductive PeerEvent
  | null
  | callData (data : CallData) (registeredPeers : PeerMap)
  | assertFailed

/-- The second loop of `TryGetPeerEvent`. What `find` has just missed,
`try_emplace` inserts. -/
def registerPeer (registeredPeers : PeerMap) : List (UInt64 × PeerInfo) → PeerEvent
  | [] => .null
  | (uniqueId, info) :: peers =>
    match registeredPeers[uniqueId]? with
    | none =>
      .callData (.addPeer info.instanceId info.accountName)
        (registeredPeers.insertIfNew uniqueId info)
    | some registered =>
      if registered.instanceId = info.instanceId ∧ registered.accountName = info.accountName then
        registerPeer registeredPeers peers
      else .assertFailed

/-- An entry of `RegisteredPeers` that is gone from `mPeers` or has changed. -/
def outdated (mPeers : PeerMap) (uniqueId : UInt64) (registered : PeerInfo) : Bool :=
  match mPeers[uniqueId]? with
  | none => true
  | some info =>
    registered.instanceId ≠ info.instanceId ∨ registered.accountName ≠ info.accountName

def tryGetPeerEvent (mPeers registeredPeers : PeerMap) : PeerEvent :=
  match registeredPeers.toList.find? fun p => outdated mPeers p.1 p.2 with
  | some (uniqueId, registered) =>
    .callData (.removePeer registered.instanceId) (registeredPeers.erase uniqueId)
  | none => registerPeer registeredPeers mPeers.toList

variable {mPeers registeredPeers : PeerMap}

theorem PeerInfo.eq_iff {a b : PeerInfo} :
    a = b ↔ a.instanceId = b.instanceId ∧ a.accountName = b.accountName := by
  cases a
  cases b
  simp

theorem outdated_iff {uniqueId : UInt64} {registered : PeerInfo} :
    outdated mPeers uniqueId registered = true ↔ mPeers[uniqueId]? ≠ some registered := by
  unfold outdated
  split
  · rename_i gone
    simp [gone]
  · rename_i info known
    simp only [known, decide_eq_true_eq, ne_eq, Option.some.injEq, PeerInfo.eq_iff]
    grind

inductive Polls (mPeers registeredPeers : PeerMap) : PeerEvent → Prop
  | remove {uniqueId : UInt64} {registered : PeerInfo}
      (known : registeredPeers[uniqueId]? = some registered)
      (outdated : mPeers[uniqueId]? ≠ some registered) :
      Polls mPeers registeredPeers (.callData (.removePeer registered.instanceId)
        (registeredPeers.erase uniqueId))
  | add {uniqueId : UInt64} {info : PeerInfo} (known : mPeers[uniqueId]? = some info)
      (missing : registeredPeers[uniqueId]? = none)
      (current : ∀ (uniqueId : UInt64) (registered : PeerInfo),
        registeredPeers[uniqueId]? = some registered → mPeers[uniqueId]? = some registered) :
      Polls mPeers registeredPeers (.callData (.addPeer info.instanceId info.accountName)
        (registeredPeers.insert uniqueId info))
  | null (same : registeredPeers = mPeers) : Polls mPeers registeredPeers .null

theorem insertIfNew_of_missing {uniqueId : UInt64} (missing : mPeers[uniqueId]? = none)
    (info : PeerInfo) : mPeers.insertIfNew uniqueId info = mPeers.insert uniqueId info := by
  apply Std.ExtTreeMap.ext_getElem?
  intro k
  rw [Std.ExtTreeMap.getElem?_insertIfNew, Std.ExtTreeMap.getElem?_insert]
  have out : uniqueId ∉ mPeers := by simpa using missing
  simp [out]

section

variable (current : ∀ (uniqueId : UInt64) (registered : PeerInfo),
  registeredPeers[uniqueId]? = some registered → mPeers[uniqueId]? = some registered)

include current

theorem registerPeer_cases (peers : List (UInt64 × PeerInfo))
    (known : ∀ p ∈ peers, mPeers[p.1]? = some p.2) :
    (registerPeer registeredPeers peers = .null ∧
        ∀ p ∈ peers, registeredPeers[p.1]? = some p.2) ∨
      ∃ p ∈ peers, registeredPeers[p.1]? = none ∧ registerPeer registeredPeers peers =
        .callData (.addPeer p.2.instanceId p.2.accountName) (registeredPeers.insert p.1 p.2) := by
  -- With nothing outdated left, the first peer that is missing is added.
  induction peers with
  | nil => exact .inl ⟨rfl, fun _ mem => nomatch mem⟩
  | cons p peers ih =>
    obtain ⟨uniqueId, info⟩ := p
    have here := known _ (.head _)
    unfold registerPeer
    split
    · rename_i missing
      refine .inr ⟨_, .head _, missing, ?_⟩
      rw [insertIfNew_of_missing missing]
    · rename_i registered found
      have same : registered = info := by
        have there := current _ _ found
        rw [here] at there
        exact (Option.some.inj there).symm
      rw [if_pos (PeerInfo.eq_iff.mp same)]
      cases ih fun p mem => known p (.tail _ mem) with
      | inl all =>
        refine .inl ⟨all.1, fun p mem => ?_⟩
        cases mem with
        | head => rw [found, same]
        | tail _ mem => exact all.2 p mem
      | inr one =>
        obtain ⟨p, mem, rest⟩ := one
        exact .inr ⟨p, .tail _ mem, rest⟩

theorem registerPeer_polls :
    Polls mPeers registeredPeers (registerPeer registeredPeers mPeers.toList) := by
  cases registerPeer_cases current mPeers.toList
    fun p mem => Std.ExtTreeMap.mem_toList_iff_getElem?_eq_some.mp mem with
  | inl all =>
    rw [all.1]
    refine .null (Lib.Reconcile.ext_some fun uniqueId info =>
      ⟨current uniqueId info, fun known => ?_⟩)
    exact all.2 (uniqueId, info) (Std.ExtTreeMap.mem_toList_iff_getElem?_eq_some.mpr known)
  | inr one =>
    obtain ⟨p, mem, missing, result⟩ := one
    rw [result]
    exact .add (Std.ExtTreeMap.mem_toList_iff_getElem?_eq_some.mp mem) missing current

end

theorem tryGetPeerEvent_polls (mPeers registeredPeers : PeerMap) :
    Polls mPeers registeredPeers (tryGetPeerEvent mPeers registeredPeers) := by
  unfold tryGetPeerEvent
  split
  · rename_i uniqueId registered found
    have known := List.mem_of_find?_eq_some found
    have stale := List.find?_some found
    exact .remove (Std.ExtTreeMap.mem_toList_iff_getElem?_eq_some.mp known) (outdated_iff.mp stale)
  · rename_i none
    refine registerPeer_polls fun uniqueId registered known => ?_
    have fresh := List.find?_eq_none.mp none (uniqueId, registered)
      (Std.ExtTreeMap.mem_toList_iff_getElem?_eq_some.mpr known)
    by_contra stale
    exact fresh (outdated_iff.mpr stale)

end ArcdpsHealing.Networking
