import ArcdpsHealing.Networking.Routing

namespace ArcdpsHealing.Networking

open Arcdps Lib

variable {s s' : Server} {w w' : World} {l : Label} {ls : List Label} {client other : ConnectionId}
  {peers : Std.ExtTreeMap AccountName UInt16} {instanceId : UInt16} {name : AccountName} {k : Nat}

def Message.updatePeers (peers : Std.ExtTreeMap AccountName UInt16) :
    Message → Std.ExtTreeMap AccountName UInt16
  | .addPeer peerId name => peers.insert name peerId
  | .removePeer peerId => Server.removePeer peers peerId
  | .registerSelf _ _ => peers
  | .setSelfId _ => peers
  | .combatEvent _ => peers

theorem Server.Accepts.peers_eq {now : Int64} {m : Message} {sends : List Send}
    (h : s.Accepts now client m s' sends) (other : ConnectionId) :
    (s'.connections other).peers =
      if other = client then m.updatePeers (s.connections client).peers
      else (s.connections other).peers := by
  cases h with
  | register | takeOver | setSelfId | addPeer | removePeer | combatEvent =>
    grind [Message.updatePeers]

@[grind =] theorem Server.peers_forceDisconnect :
    ((s.forceDisconnect client).connections other).peers = (s.connections other).peers := by
  unfold Server.forceDisconnect
  split <;> grind

theorem Step.peers_eq (step : Step w l w') (other : ConnectionId) :
    (w'.server.connections other).peers =
      match l.event with
      | .accepted m =>
        if other = l.client then m.updatePeers (w.server.connections other).peers
        else (w.server.connections other).peers
      | _ => (w.server.connections other).peers := by
  cases step with
  | accept now _ _ handled =>
    have here := (Server.handle_accepts handled).peers_eq other
    grind
  | stamp | disconnect => grind
  | receive | close | malformed | ignore | reject | send => rfl

def Unlisted (instanceId : UInt16) (peers : Std.ExtTreeMap AccountName UInt16) : Prop :=
  ∀ name : AccountName, peers[name]? ≠ some instanceId

def ListedOnce (instanceId : UInt16) (peers : Std.ExtTreeMap AccountName UInt16) : Prop :=
  ∀ name name' : AccountName, peers[name]? = some instanceId → peers[name']? = some instanceId →
    name = name'

theorem removePeer_cases (peers : Std.ExtTreeMap AccountName UInt16) (instanceId : UInt16) :
    Unlisted instanceId peers ∧ Server.removePeer peers instanceId = peers ∨
      ∃ name : AccountName, peers[name]? = some instanceId ∧
        Server.removePeer peers instanceId = peers.erase name := by
  unfold Server.removePeer
  split
  case h_1 none =>
    refine .inl ⟨fun name listed => ?_, rfl⟩
    have mem : (name, instanceId) ∈ peers.toList :=
      Std.ExtTreeMap.mem_toList_iff_getElem?_eq_some.mpr listed
    exact List.find?_eq_none.mp none _ mem (decide_eq_true rfl)
  case h_2 name peerId found =>
    have mem := Std.ExtTreeMap.mem_toList_iff_getElem?_eq_some.mp (List.mem_of_find?_eq_some found)
    have same : peerId = instanceId := by simpa using List.find?_some found
    exact .inr ⟨name, same ▸ mem, rfl⟩

theorem unlisted_removePeer_iff :
    Unlisted instanceId (Server.removePeer peers instanceId) ↔ ListedOnce instanceId peers := by
  -- Only one entry is erased, so that only one can be gone.
  obtain ⟨unlisted, same⟩ | ⟨first, listed, erased⟩ := removePeer_cases peers instanceId
  · rw [same]
    exact iff_of_true unlisted fun name _ listed => absurd listed (unlisted name)
  · rw [erased]
    have left (name : AccountName) (ne : first ≠ name) :
        (peers.erase first)[name]? = peers[name]? := by
      rw [Std.ExtTreeMap.getElem?_erase, if_neg (by simpa using ne)]
    constructor
    · intro unlisted
      have only (name : AccountName) (here : peers[name]? = some instanceId) : first = name := by
        by_contra ne
        exact unlisted name ((left name ne).trans here)
      intro name name' here there
      rw [← only name here, ← only name' there]
    · intro once name here
      have ne : first ≠ name := by
        rintro rfl
        rw [Std.ExtTreeMap.getElem?_erase_self] at here
        nomatch here
      exact ne (once first name listed ((left name ne).symm.trans here))

theorem getElem?_of_removePeer {peerId : UInt16}
    (kept : (Server.removePeer peers instanceId)[name]? = some peerId) :
    peers[name]? = some peerId := by
  obtain ⟨-, same⟩ | ⟨first, -, erased⟩ := removePeer_cases peers instanceId
  · rwa [same] at kept
  · rw [erased, Std.ExtTreeMap.getElem?_erase] at kept
    split at kept
    · nomatch kept
    · exact kept

theorem getElem?_removePeer {peerId : UInt16} (ne : peerId ≠ instanceId) :
    (Server.removePeer peers instanceId)[name]? = some peerId ↔ peers[name]? = some peerId := by
  obtain ⟨-, same⟩ | ⟨first, listed, erased⟩ := removePeer_cases peers instanceId
  · rw [same]
  · rw [erased, Std.ExtTreeMap.getElem?_erase]
    by_cases here : first = name
    · subst here
      simp [listed, ne.symm]
    · simp [here]

def Label.Relists (l : Label) (client : ConnectionId) (instanceId : UInt16) : Prop :=
  ∃ name, l.client = client ∧ l.event = .accepted (.addPeer instanceId name)

theorem Step.unlisted (step : Step w l w') (other : ¬ l.Relists client instanceId)
    (before : Unlisted instanceId (w.server.connections client).peers) :
    Unlisted instanceId (w'.server.connections client).peers := by
  rw [step.peers_eq client]
  split
  case h_2 => exact before
  case h_1 m accepted =>
    split
    case isFalse => exact before
    case isTrue own =>
      cases m with
      | registerSelf | setSelfId | combatEvent => exact before
      | addPeer peerId name =>
        intro name' listed
        rw [Message.updatePeers, Std.ExtTreeMap.getElem?_insert] at listed
        split at listed
        · cases listed
          exact other ⟨name, own.symm, accepted⟩
        · exact before name' listed
      | removePeer peerId =>
        exact fun name listed => before name (getElem?_of_removePeer listed)

/-- What the removal of a peer is for. -/
structure Stops (instanceId : UInt16) (client : ConnectionId) (w w' : World) : Prop where
  gone : Unlisted instanceId (w'.server.connections client).peers
  others : ∀ (name : AccountName) (peerId : UInt16), peerId ≠ instanceId →
    ((w'.server.connections client).peers[name]? = some peerId ↔
      (w.server.connections client).peers[name]? = some peerId)
  later : ∀ ls v, Run Step w' ls v → (∀ l ∈ ls, ¬ l.Relists client instanceId) →
    ∀ peer ∈ v.server.recipients client, (v.server.connections peer).instanceId ≠ instanceId

theorem removePeer_stops_iff (step : Step w ⟨k, client, .accepted (.removePeer instanceId)⟩ w') :
    Stops instanceId client w w' ↔
      ListedOnce instanceId (w.server.connections client).peers := by
  have peers : (w'.server.connections client).peers =
      Server.removePeer (w.server.connections client).peers instanceId := by
    rw [step.peers_eq client]
    exact if_pos rfl
  rw [← unlisted_removePeer_iff, ← peers]
  refine ⟨Stops.gone, fun gone => ⟨gone, fun name peerId ne => ?_, fun ls v run quiet => ?_⟩⟩
  · rw [peers]
    exact getElem?_removePeer ne
  · have still := run.invariant
      (P := fun v => Unlisted instanceId (v.server.connections client).peers)
      (fun l => ¬ l.Relists client instanceId) (fun before other step => step.unlisted other before)
      gone quiet
    rintro peer mem rfl
    obtain ⟨name, -, listed, -⟩ := Server.mem_recipients.mp mem
    exact still name listed

section Witness

def removing : World := listed.goto 3 (.incoming 0 (Message.removePeer 6).encode)

def removingTwice : World :=
  (listed.accept 3 0 (.addPeer 6 [65])
    (listed.server.modify 0 fun x => { x with peers := x.peers.insert [65] 6 }) []).goto 4
      (.incoming 0 (Message.removePeer 6).encode)

def World.removePeer (w : World) (k : Nat) : World :=
  (w.setServer (w.server.modify 0 fun x => { x with peers := Server.removePeer x.peers 6 })).goto k
    (.sending 0 [])

theorem removePeer_step {k : Nat} (call : w.calls k = .incoming 0 (Message.removePeer 6).encode)
    (registered : (w.server.connections 0).iterator.isSome = true) :
    Step w ⟨k, 0, .accepted (.removePeer 6)⟩ (w.removePeer k) :=
  .accept 0 call (Message.parse_encode _ trivial) (Server.Accepts.removePeer registered).handle

theorem removePeer_stops_listed :
    Stops 6 0 removing (removing.removePeer 3) ↔
      ListedOnce 6 (removing.server.connections 0).peers :=
  removePeer_stops_iff (removePeer_step rfl rfl)

/-- Of the two peers one is left. -/
theorem removePeer_leaves_another :
    (∃ ls, Run Step (.initial 30000) ls removingTwice) ∧
      Step removingTwice ⟨4, 0, .accepted (.removePeer 6)⟩ (removingTwice.removePeer 4) ∧
      ¬ Stops 6 0 removingTwice (removingTwice.removePeer 4) := by
  have short : (Message.addPeer 6 [65]).Short := show [65].length < 256 by decide
  have run : Run Step (.initial 30000) _ (listed.accept 3 0 (.addPeer 6 [65]) _ []) :=
    accept_run listed_run rfl short 0 (.addPeer rfl)
  refine ⟨⟨_, .snoc run (.receive 0 _ rfl)⟩, removePeer_step rfl rfl, fun stops => ?_⟩
  have peers : ((removingTwice.removePeer 4).server.connections 0).peers =
      Server.removePeer
        ((∅ : Std.ExtTreeMap AccountName UInt16).insert [98] 6 |>.insert [65] 6) 6 :=
    rfl
  have once := unlisted_removePeer_iff.mp (peers ▸ stops.gone)
  exact absurd (once [98] [65] (by decide) (by decide)) (by decide)

end Witness

end ArcdpsHealing.Networking
