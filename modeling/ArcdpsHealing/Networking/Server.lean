import ArcdpsHealing.Networking.Messages
import Mathlib.Data.Finset.Basic

namespace ArcdpsHealing.Networking

open Arcdps

/-- Which `ConnectionContext` a `shared_ptr` points to. -/
abbrev ConnectionId := Nat

/-- An iterator into `mRegisteredAgents`. The node tells an entry from another
one that had the same name before. -/
structure Iterator where
  name : AccountName
  node : Nat
  deriving DecidableEq

structure Entry where
  node : Nat
  client : ConnectionId
  deriving DecidableEq

/-- Times are in nanoseconds. -/
structure ConnectionContext where
  iterator : Option Iterator := none
  instanceId : UInt16 := 0
  peers : Std.ExtTreeMap AccountName UInt16 := ∅
  lastCallTime : Int64 := 0
  forceDisconnected : Bool := false

/-- `undefined` is set when an iterator is used that designates nothing. -/
structure Server where
  registeredAgents : Std.ExtTreeMap AccountName Entry := ∅
  connections : ConnectionId → ConnectionContext := fun _ => {}
  nextNode : Nat := 0
  undefined : Bool := false
  conflictingClientDisconnectThresholdMs : UInt64 := 30000

structure Send where
  peer : ConnectionId
  event : CbtEvent
  senderInstanceId : UInt16
  deriving DecidableEq

/-- `duration_cast<milliseconds>(now - lastCallTime).count()` as a `uint64_t`. -/
def millisecondsSince (now lastCallTime : Int64) : UInt64 :=
  UInt64.ofInt ((now.toInt - lastCallTime.toInt).tdiv 1000000)

namespace Server

variable (s : Server)

def find (name : AccountName) : Option Entry := s.registeredAgents[name]?

def modify (client : ConnectionId) (f : ConnectionContext → ConnectionContext) : Server :=
  { s with connections := Function.update s.connections client (f (s.connections client)) }

def emplace (name : AccountName) (client : ConnectionId) : Server :=
  { s with registeredAgents := s.registeredAgents.insert name ⟨s.nextNode, client⟩
           nextNode := s.nextNode + 1 }

def assign (it : Iterator) (client : ConnectionId) : Server :=
  { s with registeredAgents := s.registeredAgents.insert it.name ⟨it.node, client⟩ }

def erase (it : Iterator) : Server :=
  if (s.find it.name).map (·.node) = some it.node then
    { s with registeredAgents := s.registeredAgents.erase it.name }
  else { s with undefined := true }

/-- `ForceDisconnect`, with the effect of `Interface->ForceDisconnect` on the
connection context. -/
def forceDisconnect (client : ConnectionId) : Server :=
  match (s.connections client).iterator with
  | none => s.modify client fun x => { x with forceDisconnected := true }
  | some it =>
    (s.erase it).modify client fun x => { x with iterator := none, forceDisconnected := true }

/-- What `HandleRegisterSelf` writes last. -/
def register (client : ConnectionId) (it : Iterator) (instanceId : UInt16) : Server :=
  s.modify client fun x => { x with iterator := some it, instanceId := instanceId }

/-- The client that loses its name to a new one. Its entry stays, so that its
own `ForceDisconnect` has nothing to erase later. -/
def supersede (oldClient : ConnectionId) : Server :=
  s.modify oldClient fun x => { x with iterator := none, forceDisconnected := true }

def handleRegisterSelf (now : Int64) (instanceId : UInt16) (accountName : AccountName)
    (client : ConnectionId) : Except String Server :=
  if (s.connections client).forceDisconnected = true then
    .error "client is already disconnected"
  else if (s.connections client).iterator.isSome = true then
    .error "already registered account name on this connection"
  else
    match s.find accountName with
    | none =>
      .ok ((s.emplace accountName client).register client ⟨accountName, s.nextNode⟩ instanceId)
    | some entry =>
      if millisecondsSince now (s.connections entry.client).lastCallTime <
          s.conflictingClientDisconnectThresholdMs then
        .error "account name collision"
      else
        .ok (((s.supersede entry.client).assign ⟨accountName, entry.node⟩ client).register client
          ⟨accountName, entry.node⟩ instanceId)

/-- The test that the other handlers begin with. -/
def ifRegistered {α : Type} (client : ConnectionId) (result : α) : Except String α :=
  if (s.connections client).iterator.isSome = false then .error "not registered yet"
  else .ok result

def handleSetSelfId (instanceId : UInt16) (client : ConnectionId) : Except String Server :=
  s.ifRegistered client <| s.modify client fun x => { x with instanceId := instanceId }

def handleAddPeer (instanceId : UInt16) (accountName : AccountName) (client : ConnectionId) :
    Except String Server :=
  s.ifRegistered client <| s.modify client fun x =>
    { x with peers := x.peers.insert accountName instanceId }

/-- The first peer with that instance id, in the order of the names. -/
def removePeer (peers : Std.ExtTreeMap AccountName UInt16) (instanceId : UInt16) :
    Std.ExtTreeMap AccountName UInt16 :=
  match peers.toList.find? fun (_, peerId) => peerId = instanceId with
  | none => peers
  | some (name, _) => peers.erase name

def handleRemovePeer (instanceId : UInt16) (client : ConnectionId) : Except String Server :=
  s.ifRegistered client <| s.modify client fun x =>
    { x with peers := removePeer x.peers instanceId }

def route : AccountName × UInt16 → Option ConnectionId
  | (peerName, peerId) =>
    match s.find peerName with
    | none => none
    | some entry =>
      if (s.connections entry.client).instanceId ≠ peerId then none else some entry.client

/-- The vector `peers` of `HandleCombatEvent`. -/
def recipients (client : ConnectionId) : List ConnectionId :=
  (s.connections client).peers.toList.filterMap s.route

/-- The calls of `SendEventToClient` to make once the lock is released. -/
def sends (client : ConnectionId) (event : CbtEvent) : List Send :=
  (s.recipients client).map fun peer => ⟨peer, event, (s.connections client).instanceId⟩

def handleCombatEvent (event : CbtEvent) (client : ConnectionId) : Except String (List Send) :=
  s.ifRegistered client <| s.sends client event

/-- The handler of a message, under `mRegisteredAgentsLock`. -/
def handle (now : Int64) (client : ConnectionId) : Message → Except String (Server × List Send)
  | .registerSelf selfId name => (·, []) <$> s.handleRegisterSelf now selfId name client
  | .setSelfId selfId => (·, []) <$> s.handleSetSelfId selfId client
  | .addPeer peerId name => (·, []) <$> s.handleAddPeer peerId name client
  | .removePeer peerId => (·, []) <$> s.handleRemovePeer peerId client
  | .combatEvent event => (s, ·) <$> s.handleCombatEvent event client

def stamp (now : Int64) (client : ConnectionId) : Server :=
  s.modify client fun x => { x with lastCallTime := now }

/-- What becomes of a message that has been taken apart. The clock is read for
a collision and again at the end. -/
def handleMessage (now now' : Int64) (m : Message) (client : ConnectionId) : Server :=
  match s.handle now client m with
  | .error _ => s.forceDisconnect client
  | .ok (s, _) => s.stamp now' client

/-- `HandleIncomingMessage` when nothing else runs. -/
def handleIncomingMessage (now now' : Int64) (data : List UInt8) (client : ConnectionId) :
    Server :=
  match Message.parse data with
  | .error _ => s.forceDisconnect client
  | .ok none => s
  | .ok (some m) => s.handleMessage now now' m client

section

variable (client other : ConnectionId) (f : ConnectionContext → ConnectionContext)
  (name accountName : AccountName) (it : Iterator)

@[grind =] theorem connections_modify : (s.modify client f).connections other =
    if other = client then f (s.connections client) else s.connections other := by
  simp [modify, Function.update_apply]

@[simp] theorem connections_modify_self :
    (s.modify client f).connections client = f (s.connections client) := by
  simp [modify]

@[simp, grind =] theorem find_modify : (s.modify client f).find name = s.find name := rfl
@[simp, grind =] theorem registeredAgents_modify :
    (s.modify client f).registeredAgents = s.registeredAgents := rfl
@[simp, grind =] theorem undefined_modify : (s.modify client f).undefined = s.undefined := rfl

@[grind =] theorem connections_register (instanceId : UInt16) :
    (s.register client it instanceId).connections other =
      if other = client then
        { s.connections client with iterator := some it, instanceId := instanceId }
      else s.connections other :=
  s.connections_modify client other _

@[grind =] theorem connections_supersede : (s.supersede client).connections other =
    if other = client then
      { s.connections client with iterator := none, forceDisconnected := true }
    else s.connections other :=
  s.connections_modify client other _

@[grind =] theorem connections_stamp (now : Int64) : (s.stamp now client).connections other =
    if other = client then { s.connections client with lastCallTime := now }
    else s.connections other :=
  s.connections_modify client other _

@[simp, grind =] theorem find_register (instanceId : UInt16) :
    (s.register client it instanceId).find name = s.find name := rfl
@[simp, grind =] theorem find_supersede : (s.supersede client).find name = s.find name := rfl
@[simp, grind =] theorem find_stamp (now : Int64) : (s.stamp now client).find name = s.find name :=
  rfl

@[grind =] theorem find_emplace : (s.emplace accountName client).find name =
    if name = accountName then some ⟨s.nextNode, client⟩ else s.find name := by
  simp [find, emplace, Std.ExtTreeMap.getElem?_insert, eq_comm (a := name)]

@[simp, grind =] theorem connections_emplace :
    (s.emplace name client).connections other = s.connections other := rfl
@[simp, grind =] theorem undefined_emplace :
    (s.emplace name client).undefined = s.undefined := rfl

@[grind =] theorem find_assign : (s.assign it client).find name =
    if name = it.name then some ⟨it.node, client⟩ else s.find name := by
  simp [find, assign, Std.ExtTreeMap.getElem?_insert, eq_comm (a := name)]

@[simp, grind =] theorem connections_assign :
    (s.assign it client).connections other = s.connections other := rfl
@[simp, grind =] theorem undefined_assign : (s.assign it client).undefined = s.undefined := rfl

theorem find_erase {s : Server} {it : Iterator} {entry : Entry}
    (found : s.find it.name = some entry) (designates : entry.node = it.node)
    (name : AccountName) :
    (s.erase it).find name = if name = it.name then none else s.find name := by
  unfold erase
  rw [if_pos (by simp [found, designates])]
  simp [find, Std.ExtTreeMap.getElem?_erase, eq_comm (a := name)]

theorem undefined_erase {s : Server} {it : Iterator} {entry : Entry}
    (found : s.find it.name = some entry) (designates : entry.node = it.node) :
    (s.erase it).undefined = s.undefined := by
  unfold erase
  rw [if_pos (by simp [found, designates])]

@[simp, grind =] theorem connections_erase :
    (s.erase it).connections other = s.connections other := by
  unfold erase
  split <;> rfl

end

inductive Accepts (now : Int64) (client : ConnectionId) : Message → Server → List Send → Prop
  | register {selfId name}
      (online : (s.connections client).forceDisconnected = false)
      (unregistered : (s.connections client).iterator = none)
      (free : s.find name = none) :
      Accepts now client (.registerSelf selfId name)
        ((s.emplace name client).register client ⟨name, s.nextNode⟩ selfId) []
  | takeOver {selfId name entry}
      (online : (s.connections client).forceDisconnected = false)
      (unregistered : (s.connections client).iterator = none)
      (taken : s.find name = some entry)
      (stale : s.conflictingClientDisconnectThresholdMs ≤
        millisecondsSince now (s.connections entry.client).lastCallTime) :
      Accepts now client (.registerSelf selfId name)
        (((s.supersede entry.client).assign ⟨name, entry.node⟩ client).register client
          ⟨name, entry.node⟩ selfId) []
  | setSelfId {selfId} (registered : (s.connections client).iterator.isSome = true) :
      Accepts now client (.setSelfId selfId)
        (s.modify client fun x => { x with instanceId := selfId }) []
  | addPeer {peerId name} (registered : (s.connections client).iterator.isSome = true) :
      Accepts now client (.addPeer peerId name)
        (s.modify client fun x => { x with peers := x.peers.insert name peerId }) []
  | removePeer {peerId} (registered : (s.connections client).iterator.isSome = true) :
      Accepts now client (.removePeer peerId)
        (s.modify client fun x => { x with peers := removePeer x.peers peerId }) []
  | combatEvent {event} (registered : (s.connections client).iterator.isSome = true) :
      Accepts now client (.combatEvent event) s (s.sends client event)

section

variable {s s' : Server} {client : ConnectionId} {sends : List Send} {now : Int64}

theorem ifRegistered_eq_ok {α : Type} {result a : α} :
    s.ifRegistered client result = .ok a ↔
      (s.connections client).iterator.isSome = true ∧ result = a := by
  unfold ifRegistered
  cases (s.connections client).iterator <;> simp

theorem handleRegisterSelf_accepts {instanceId : UInt16} {name : AccountName}
    (h : s.handleRegisterSelf now instanceId name client = .ok s') :
    s.Accepts now client (.registerSelf instanceId name) s' [] := by
  unfold handleRegisterSelf at h
  split at h
  · cases h
  rename_i online
  split at h
  · cases h
  rename_i unregistered
  simp only [Bool.not_eq_true, Option.isSome_eq_false_iff, Option.isNone_iff_eq_none]
    at online unregistered
  split at h
  · rename_i free
    cases h
    exact .register online unregistered free
  · rename_i entry taken
    split at h
    · cases h
    · rename_i stale
      cases h
      exact .takeOver online unregistered taken (UInt64.not_lt.mp stale)

theorem map_eq_ok {α β : Type} {f : α → β} {x : Except String α} {b : β} :
    f <$> x = .ok b ↔ ∃ a, x = .ok a ∧ f a = b := by
  cases x <;> simp [Functor.map, Except.map]

theorem handle_accepts {m : Message} (h : s.handle now client m = .ok (s', sends)) :
    s.Accepts now client m s' sends := by
  cases m with
  | registerSelf selfId name =>
    obtain ⟨t, result, same⟩ := map_eq_ok.mp h
    cases same
    exact handleRegisterSelf_accepts result
  | setSelfId selfId =>
    obtain ⟨t, result, same⟩ := map_eq_ok.mp h
    obtain ⟨registered, rfl⟩ := ifRegistered_eq_ok.mp result
    cases same
    exact .setSelfId registered
  | addPeer peerId name =>
    obtain ⟨t, result, same⟩ := map_eq_ok.mp h
    obtain ⟨registered, rfl⟩ := ifRegistered_eq_ok.mp result
    cases same
    exact .addPeer registered
  | removePeer peerId =>
    obtain ⟨t, result, same⟩ := map_eq_ok.mp h
    obtain ⟨registered, rfl⟩ := ifRegistered_eq_ok.mp result
    cases same
    exact .removePeer registered
  | combatEvent event =>
    obtain ⟨t, result, same⟩ := map_eq_ok.mp h
    obtain ⟨registered, rfl⟩ := ifRegistered_eq_ok.mp result
    cases same
    exact .combatEvent registered

theorem Accepts.handle {m : Message} (h : s.Accepts now client m s' sends) :
    s.handle now client m = .ok (s', sends) := by
  cases h with
  | register online unregistered free =>
    simp [Server.handle, handleRegisterSelf, online, unregistered, free, Functor.map, Except.map]
  | takeOver online unregistered taken stale =>
    simp [Server.handle, handleRegisterSelf, online, unregistered, taken, UInt64.not_lt.mpr stale,
      Functor.map, Except.map]
  | setSelfId registered =>
    exact map_eq_ok.mpr ⟨_, ifRegistered_eq_ok.mpr ⟨registered, rfl⟩, rfl⟩
  | addPeer registered =>
    exact map_eq_ok.mpr ⟨_, ifRegistered_eq_ok.mpr ⟨registered, rfl⟩, rfl⟩
  | removePeer registered =>
    exact map_eq_ok.mpr ⟨_, ifRegistered_eq_ok.mpr ⟨registered, rfl⟩, rfl⟩
  | combatEvent registered =>
    exact map_eq_ok.mpr ⟨_, ifRegistered_eq_ok.mpr ⟨registered, rfl⟩, rfl⟩

end

end Server

end ArcdpsHealing.Networking
