import ArcdpsHealing.Lib.Run
import ArcdpsHealing.Networking.Client
import ArcdpsHealing.Networking.Server

namespace ArcdpsHealing.Networking

open Arcdps Lib

def Distinct (peers : PeerMap) : Prop :=
  ∀ (u v : UInt64) (a b : PeerInfo), peers[u]? = some a → peers[v]? = some b →
    a.instanceId = b.instanceId ∨ a.accountName = b.accountName → u = v

def Mirrors (registeredPeers : PeerMap) (peers : Std.ExtTreeMap AccountName UInt16) : Prop :=
  ∀ (name : AccountName) (id : UInt16), peers[name]? = some id ↔
    ∃ u : UInt64, registeredPeers[u]? = some ⟨id, name⟩

def Message.follow (peers : Std.ExtTreeMap AccountName UInt16) :
    Message → Std.ExtTreeMap AccountName UInt16
  | .registerSelf _ _ => peers
  | .setSelfId _ => peers
  | .addPeer peerId name => peers.insert name peerId
  | .removePeer peerId => Server.removePeer peers peerId
  | .combatEvent _ => peers

section Mirrors

variable {registeredPeers mPeers : PeerMap} {peers : Std.ExtTreeMap AccountName UInt16}
  {u : UInt64} {info : PeerInfo}

theorem Distinct.erase (h : Distinct registeredPeers) (u : UInt64) :
    Distinct (registeredPeers.erase u) := by
  intro v w a b left right
  rw [Reconcile.getElem?_erase_eq_some] at left right
  exact h v w a b left.2 right.2

theorem Distinct.of_le (h : Distinct mPeers)
    (le : ∀ (u : UInt64) (a : PeerInfo), registeredPeers[u]? = some a → mPeers[u]? = some a) :
    Distinct registeredPeers :=
  fun u v a b left right => h u v a b (le u a left) (le v b right)

theorem Mirrors.insert (h : Mirrors registeredPeers peers)
    (distinct : Distinct (registeredPeers.insert u info)) (missing : registeredPeers[u]? = none) :
    Mirrors (registeredPeers.insert u info) (peers.insert info.accountName info.instanceId) := by
  intro name id
  have here : (registeredPeers.insert u info)[u]? = some info := by simp
  rw [Reconcile.getElem?_insert_eq_some, h name id]
  constructor
  · intro either
    cases either with
    | inl this =>
      obtain ⟨rfl, rfl⟩ := this
      exact ⟨u, here⟩
    | inr that =>
      obtain ⟨-, v, known⟩ := that
      refine ⟨v, Reconcile.getElem?_insert_eq_some.mpr (.inr ⟨fun same => ?_, known⟩)⟩
      rw [← same, missing] at known
      cases known
  · intro ⟨v, known⟩
    cases Reconcile.getElem?_insert_eq_some.mp known with
    | inl this =>
      rw [this.2]
      exact .inl ⟨rfl, rfl⟩
    | inr that =>
      exact .inr ⟨fun same => that.1 (distinct u v _ _ here known (.inr same)), v, that.2⟩

theorem removePeer_eq (h : Mirrors registeredPeers peers) (distinct : Distinct registeredPeers)
    (known : registeredPeers[u]? = some info) :
    Server.removePeer peers info.instanceId = peers.erase info.accountName := by
  -- The entry that a removal finds is the one that is meant.
  unfold Server.removePeer
  split
  · rename_i none
    have mem := (h info.accountName info.instanceId).mpr ⟨u, known⟩
    have absent := List.find?_eq_none.mp none (info.accountName, info.instanceId)
      (Std.ExtTreeMap.mem_toList_iff_getElem?_eq_some.mpr mem)
    exact absurd (by simp) absent
  · rename_i name id found
    have mem := List.mem_of_find?_eq_some found
    have same : id = info.instanceId := by simpa using List.find?_some found
    obtain ⟨v, known'⟩ := (h name id).mp (Std.ExtTreeMap.mem_toList_iff_getElem?_eq_some.mp mem)
    have unique : v = u := distinct v u _ _ known' known (.inl same)
    rw [unique, known] at known'
    cases known'
    rfl

theorem Mirrors.erase (h : Mirrors registeredPeers peers) (distinct : Distinct registeredPeers)
    (known : registeredPeers[u]? = some info) :
    Mirrors (registeredPeers.erase u) (Server.removePeer peers info.instanceId) := by
  intro name id
  rw [removePeer_eq h distinct known, Reconcile.getElem?_erase_eq_some, h name id]
  constructor
  · intro ⟨different, v, known'⟩
    refine ⟨v, Reconcile.getElem?_erase_eq_some.mpr ⟨fun same => different ?_, known'⟩⟩
    rw [← same, known] at known'
    cases known'
    rfl
  · intro ⟨v, kept⟩
    rw [Reconcile.getElem?_erase_eq_some] at kept
    exact ⟨fun same => kept.1 (distinct u v _ _ known kept.2 (.inr same)), v, kept.2⟩

end Mirrors

structure PeerSync where
  mPeers : PeerMap
  registeredPeers : PeerMap
  channel : List Message
  server : Server

namespace PeerSync

inductive Label
  | notified
  | sent
  | null
  | assertFailed
  | otherSent
  | delivered
  | elsewhere
  deriving DecidableEq

variable (client : ConnectionId)

/-- What one side does, or what the server does for other connections. -/
inductive Step (x : PeerSync) : Label → PeerSync → Prop
  | notify {source destination : Ag}
      (distinct : Distinct (processAreaAgent x.mPeers source destination)) :
      Step x .notified { x with mPeers := processAreaAgent x.mPeers source destination }
  | send {data : CallData} {registeredPeers : PeerMap} (registeredInstanceId : UInt16)
      (event : tryGetPeerEvent x.mPeers x.registeredPeers = .callData data registeredPeers) :
      Step x .sent
        { x with registeredPeers := registeredPeers
                 channel := x.channel ++ [(data.message registeredInstanceId).1] }
  | null (event : tryGetPeerEvent x.mPeers x.registeredPeers = .null) : Step x .null x
  | assertFailed (event : tryGetPeerEvent x.mPeers x.registeredPeers = .assertFailed) :
      Step x .assertFailed x
  | setSelfId (id : UInt16) :
      Step x .otherSent { x with channel := x.channel ++ [.setSelfId id] }
  | combatEvent (event : CbtEvent) :
      Step x .otherSent { x with channel := x.channel ++ [.combatEvent event] }
  | deliver {m : Message} {rest : List Message} (now now' : Int64)
      (next : x.channel = m :: rest) :
      Step x .delivered
        { x with channel := rest, server := x.server.handleMessage now now' m client }
  | elsewhere {server : Server}
      (registered : (server.connections client).iterator.isSome = true)
      (peers : (server.connections client).peers = (x.server.connections client).peers) :
      Step x .elsewhere { x with server := server }

structure Fresh (x : PeerSync) : Prop where
  distinct : Distinct x.mPeers
  registeredPeers : x.registeredPeers = ∅
  channel : x.channel = []
  registered : (x.server.connections client).iterator.isSome = true
  peers : (x.server.connections client).peers = ∅

structure Inv (x : PeerSync) : Prop where
  distinct : Distinct x.mPeers
  once : Distinct x.registeredPeers
  registered : (x.server.connections client).iterator.isSome = true
  late : ∀ m ∈ x.channel, ¬ m.IsRegisterSelf
  mirrors : Mirrors x.registeredPeers
    (x.channel.foldl Message.follow (x.server.connections client).peers)

end PeerSync

theorem Server.handleMessage_registered {s : Server} {client : ConnectionId} {m : Message}
    (registered : (s.connections client).iterator.isSome = true) (late : ¬ m.IsRegisterSelf)
    (now now' : Int64) :
    ((s.handleMessage now now' m client).connections client).iterator.isSome = true ∧
      ((s.handleMessage now now' m client).connections client).peers =
        m.follow (s.connections client).peers := by
  unfold handleMessage
  cases m with
  | registerSelf selfId name => exact absurd trivial late
  | setSelfId selfId =>
    rw [(Accepts.setSelfId registered).handle]
    simp only [Message.follow]
    grind
  | addPeer peerId name =>
    rw [(Accepts.addPeer registered).handle]
    simp only [Message.follow]
    grind
  | removePeer peerId =>
    rw [(Accepts.removePeer registered).handle]
    simp only [Message.follow]
    grind
  | combatEvent event =>
    rw [(Accepts.combatEvent registered).handle]
    simp only [Message.follow]
    grind

namespace PeerSync

variable {client : ConnectionId} {x y : PeerSync} {l : Label}

theorem inv_fresh (h : Fresh client x) : Inv client x := by
  obtain ⟨distinct, registeredPeers, channel, registered, peers⟩ := h
  constructor
  · exact distinct
  · simp [registeredPeers, Distinct]
  · exact registered
  · simp [channel]
  · simp [registeredPeers, channel, peers, Mirrors]

theorem polls_mirrors {mPeers registeredPeers registeredPeers' : PeerMap} {data : CallData}
    {peers : Std.ExtTreeMap AccountName UInt16} (distinct : Distinct mPeers)
    (once : Distinct registeredPeers) (mirrors : Mirrors registeredPeers peers)
    (polls : Polls mPeers registeredPeers (.callData data registeredPeers'))
    (registeredInstanceId : UInt16) :
    let m := (data.message registeredInstanceId).1
    ¬ m.IsRegisterSelf ∧ Distinct registeredPeers' ∧ Mirrors registeredPeers' (m.follow peers) := by
  cases polls with
  | remove known outdated =>
    exact ⟨id, once.erase _, mirrors.erase once known⟩
  | add known missing current =>
    have both := distinct.of_le fun v a here => by
      cases Reconcile.getElem?_insert_eq_some.mp here with
      | inl this =>
        obtain ⟨rfl, rfl⟩ := this
        exact known
      | inr that => exact current v a that.2
    exact ⟨id, both, mirrors.insert both missing⟩

theorem inv_step (h : Inv client x) (step : Step client x l y) : Inv client y := by
  obtain ⟨distinct, once, registered, late, mirrors⟩ := h
  cases step with
  | notify distinct' => exact ⟨distinct', once, registered, late, mirrors⟩
  | send registeredInstanceId event =>
    have polls := tryGetPeerEvent_polls x.mPeers x.registeredPeers
    rw [event] at polls
    obtain ⟨notRegister, once', mirrors'⟩ :=
      polls_mirrors distinct once mirrors polls registeredInstanceId
    refine ⟨distinct, once', registered, ?_, ?_⟩
    · simpa [or_imp, forall_and] using ⟨late, notRegister⟩
    · simpa using mirrors'
  | null event => exact ⟨distinct, once, registered, late, mirrors⟩
  | assertFailed event => exact ⟨distinct, once, registered, late, mirrors⟩
  | setSelfId id =>
    refine ⟨distinct, once, registered, ?_, ?_⟩
    · simpa [or_imp, forall_and, Message.IsRegisterSelf] using late
    · simpa [Message.follow] using mirrors
  | combatEvent event =>
    refine ⟨distinct, once, registered, ?_, ?_⟩
    · simpa [or_imp, forall_and, Message.IsRegisterSelf] using late
    · simpa [Message.follow] using mirrors
  | deliver now now' next =>
    simp only [next, List.mem_cons, forall_eq_or_imp, List.foldl_cons] at late mirrors
    obtain ⟨kept, followed⟩ := Server.handleMessage_registered registered late.1 now now'
    exact ⟨distinct, once, kept, late.2, by rw [followed]; exact mirrors⟩
  | elsewhere registered' peers =>
    exact ⟨distinct, once, registered', late, by rw [peers]; exact mirrors⟩

theorem run_inv {ls : List Label} (h : Inv client x) (run : Run (Step client) x ls y) :
    Inv client y :=
  run.invariant (P := Inv client) (fun _ => True) (fun h _ step => inv_step h step) h (by simp)

def Closer (mPeers registeredPeers : PeerMap) : PeerEvent → Prop
  | .null => Reconcile.distance mPeers registeredPeers = 0
  | .callData _ registeredPeers' =>
    Reconcile.distance mPeers registeredPeers' + 1 = Reconcile.distance mPeers registeredPeers
  | .assertFailed => False

theorem polls_closer {mPeers registeredPeers : PeerMap} {event : PeerEvent}
    (polls : Polls mPeers registeredPeers event) : Closer mPeers registeredPeers event := by
  cases polls with
  | remove known outdated => exact Reconcile.distance_erase known outdated
  | add known missing current => exact Reconcile.distance_insert known missing
  | null same => exact Reconcile.distance_eq_zero.mpr same

theorem tryGetPeerEvent_null {mPeers registeredPeers : PeerMap} :
    tryGetPeerEvent mPeers registeredPeers = .null ↔
      Reconcile.distance mPeers registeredPeers = 0 := by
  have closer := polls_closer (tryGetPeerEvent_polls mPeers registeredPeers)
  generalize tryGetPeerEvent mPeers registeredPeers = event at *
  cases event with
  | null => exact ⟨fun _ => closer, fun _ => rfl⟩
  | callData data registeredPeers' =>
    unfold Closer at closer
    simp only [reduceCtorEq, false_iff]
    omega
  | assertFailed => exact closer.elim

theorem distance_step (step : Step client x l y) (quiet : l ≠ .notified) :
    Reconcile.distance y.mPeers y.registeredPeers + (if l = .sent then 1 else 0) =
        Reconcile.distance x.mPeers x.registeredPeers ∧
      (l = .null → Reconcile.distance x.mPeers x.registeredPeers = 0) := by
  cases step with
  | notify distinct => exact absurd rfl quiet
  | send registeredInstanceId event =>
    have closer := polls_closer (tryGetPeerEvent_polls x.mPeers x.registeredPeers)
    rw [event] at closer
    exact ⟨by simpa [Closer] using closer, by simp⟩
  | null event => exact ⟨by simp, fun _ => tryGetPeerEvent_null.mp event⟩
  | assertFailed | setSelfId | combatEvent | deliver | elsewhere => exact ⟨by simp, by simp⟩

def Approached (x : PeerSync) (ls : List Label) (y : PeerSync) : Prop :=
  Reconcile.distance y.mPeers y.registeredPeers + ls.count .sent =
      Reconcile.distance x.mPeers x.registeredPeers ∧
    (ls.count .null ≠ 0 → Reconcile.distance y.mPeers y.registeredPeers = 0)

theorem approached_step {ls : List Label} {z : PeerSync} (h : Approached x ls y)
    (quiet : l ≠ .notified) (step : Step client y l z) : Approached x (ls ++ [l]) z := by
  obtain ⟨shrinks, nothing⟩ := distance_step step quiet
  obtain ⟨account, finished⟩ := h
  unfold Approached
  rw [List.count_append, List.count_append, List.count_singleton, List.count_singleton]
  grind

theorem approached_run {ls : List Label} (run : Run (Step client) x ls y)
    (quiet : ∀ l ∈ ls, l ≠ .notified) : Approached x ls y :=
  run.history (fun l => l ≠ .notified) approached_step ⟨by simp, by simp⟩ quiet

/-- The server's list of peers at any point of any run. -/
theorem peer_sync {start : PeerSync} {ls : List Label} (fresh : Fresh client start)
    (run : Run (Step client) start ls x) :
    (x.channel = [] → ∀ (name : AccountName) (id : UInt16),
      (x.server.connections client).peers[name]? = some id ↔
        ∃ u : UInt64, x.registeredPeers[u]? = some ⟨id, name⟩) ∧
    tryGetPeerEvent x.mPeers x.registeredPeers ≠ .assertFailed ∧
    (∀ after y, Run (Step client) x after y → (∀ l ∈ after, l ≠ .notified) →
      x.registeredPeers.size + x.mPeers.size ≤ after.count .sent + after.count .null →
        tryGetPeerEvent y.mPeers y.registeredPeers = .null) ∧
    (tryGetPeerEvent x.mPeers x.registeredPeers = .null →
      x.registeredPeers = x.mPeers ∧
        (x.channel = [] → ∀ (name : AccountName) (id : UInt16),
          (x.server.connections client).peers[name]? = some id ↔
            ∃ u : UInt64, x.mPeers[u]? = some ⟨id, name⟩)) := by
  have inv := run_inv (inv_fresh fresh) run
  have mirrors (handled : x.channel = []) :
      Mirrors x.registeredPeers (x.server.connections client).peers := by
    simpa [handled] using inv.mirrors
  refine ⟨mirrors, fun failed => ?_, fun after y later quiet calls => ?_, fun null => ?_⟩
  · have closer := polls_closer (tryGetPeerEvent_polls x.mPeers x.registeredPeers)
    rw [failed] at closer
    exact closer
  · obtain ⟨account, finished⟩ := approached_run later quiet
    have le : Reconcile.distance x.mPeers x.registeredPeers ≤ _ := Reconcile.distance_le
    rw [tryGetPeerEvent_null]
    omega
  · have same := Reconcile.distance_eq_zero.mp (tryGetPeerEvent_null.mp null)
    exact ⟨same, fun handled => same ▸ mirrors handled⟩

section Witness

def met : PeerSync where
  mPeers := processAreaAgent ∅ ⟨some [99], 7, 1, 0, 0, 0⟩ ⟨some [98], 9, 1, 0, 0, 0⟩
  registeredPeers := ∅
  channel := []
  server := (({} : Server).emplace [97] 0).register 0 ⟨[97], 0⟩ 5

theorem met_fresh : Fresh 0 { met with mPeers := ∅ } :=
  ⟨by simp [Distinct], rfl, rfl, rfl, rfl⟩

theorem met_distinct : Distinct met.mPeers := by
  have added : met.mPeers = (∅ : PeerMap).insert 7 ⟨9, [98]⟩ :=
    insertIfNew_of_missing (by simp) ⟨9, [98]⟩
  intro u v a b left right _
  rw [added, Reconcile.getElem?_insert_eq_some] at left right
  simp at left right
  rw [← left.1, ← right.1]

theorem met_event : tryGetPeerEvent met.mPeers met.registeredPeers =
    .callData (.addPeer 9 [98]) met.mPeers := rfl

theorem peer_sync_met :
    let x : PeerSync := { met with registeredPeers := met.mPeers, channel := [.addPeer 9 [98]] }
    (x.channel = [] → ∀ (name : AccountName) (id : UInt16),
      (x.server.connections 0).peers[name]? = some id ↔
        ∃ u : UInt64, x.registeredPeers[u]? = some ⟨id, name⟩) ∧
    tryGetPeerEvent x.mPeers x.registeredPeers ≠ .assertFailed ∧
    (∀ after y, Run (Step 0) x after y → (∀ l ∈ after, l ≠ .notified) →
      x.registeredPeers.size + x.mPeers.size ≤ after.count .sent + after.count .null →
        tryGetPeerEvent y.mPeers y.registeredPeers = .null) ∧
    (tryGetPeerEvent x.mPeers x.registeredPeers = .null →
      x.registeredPeers = x.mPeers ∧
        (x.channel = [] → ∀ (name : AccountName) (id : UInt16),
          (x.server.connections 0).peers[name]? = some id ↔
            ∃ u : UInt64, x.mPeers[u]? = some ⟨id, name⟩)) :=
  peer_sync met_fresh (.snoc (.snoc .nil (.notify met_distinct)) (.send 5 met_event))

end Witness

end PeerSync

end ArcdpsHealing.Networking
