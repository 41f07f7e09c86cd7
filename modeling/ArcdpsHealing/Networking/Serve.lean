import ArcdpsHealing.Lib.Run
import ArcdpsHealing.Networking.Client
import ArcdpsHealing.Networking.Server

/-! `evtc_rpc_client::Serve`, with the notifications that arrive meanwhile. -/

namespace ArcdpsHealing.Networking

open Arcdps Lib

inductive CallDataType
  | connect | writesDone | finish | readMessage | registerSelf | addPeer | removePeer | combatEvent
  | disconnect
  deriving DecidableEq

def CallDataType.isWrite : CallDataType → Bool
  | connect | registerSelf | addPeer | removePeer | combatEvent => true
  | writesDone | finish | readMessage | disconnect => false

namespace CallData

def type : CallData → CallDataType
  | registerSelf _ _ => .registerSelf
  | addPeer _ _ => .addPeer
  | removePeer _ => .removePeer
  | combatEvent _ => .combatEvent

theorem isWrite_type (data : CallData) : data.type.isWrite = true := by
  cases data <;> rfl

def fits : CallData → Bool
  | registerSelf _ name => name.length < 255
  | addPeer _ name => name.length < 255
  | removePeer _ => true
  | combatEvent _ => true

theorem short_message {data : CallData} (fits : data.fits = true)
    (registeredInstanceId : UInt16) : (data.message registeredInstanceId).1.Short := by
  cases data with
  | registerSelf selfId name =>
    simp only [CallData.fits, decide_eq_true_eq] at fits
    simp only [message]
    split
    · exact Nat.lt_succ_of_lt fits
    · trivial
  | addPeer peerId name =>
    simp only [CallData.fits, decide_eq_true_eq] at fits
    exact Nat.lt_succ_of_lt fits
  | removePeer | combatEvent => trivial

end CallData

structure Tag where
  type : CallDataType
  context : ConnectionId
  deriving DecidableEq

def Tag.writes (context : ConnectionId) (tag : Tag) : Bool :=
  tag.context = context ∧ tag.type.isWrite = true

namespace Client

/-- `evtc_rpc_client::ConnectionContext`. -/
structure ConnectionContext where
  forceDisconnected : Bool := false
  writePending : Bool := false
  registeredInstanceId : UInt16 := 0
  registeredPeers : PeerMap := ∅

/-- Where `Serve` stands. The instance id is what it read under `mSelfInfoLock`
in this iteration. -/
inductive Position
  | asyncNext
  | branch
  | selfInfo (context : ConnectionId)
  | peerEvent (context : ConnectionId) (instanceId : UInt16)
  | queuedEvent (context : ConnectionId) (instanceId : UInt16)
  | sendEvent (context : ConnectionId) (instanceId : UInt16) (data : CallData)
  | returned
  | assertFailed
  deriving DecidableEq

inductive Branch
  | nothing
  | shutDown
  | connect
  | send (context : ConnectionId)
  deriving DecidableEq

/-- What `HandleReadMessage` makes of the data. An error closes the connection,
an unknown type is logged and no more. -/
def parse (data : List UInt8) : Except String (Option (CbtEvent × UInt16)) := do
  if data.length < Message.header.size then throw "short message header"
  let (messageVersion, messageType) := Message.header.decode (data.take Message.header.size)
  if messageVersion ≠ 1 then throw "incorrect version"
  if messageType = 5 then
    return some (← Message.parseFixed Message.combat "short SetSelfAccountName content"
      (data.drop Message.header.size))
  else return none

end Client

/-- `evtc_rpc_client`, with every context that it has made and the operations
that the completion queue has not reported. -/
structure Client where
  selfInfo : SelfInfo := {}
  mPeers : PeerMap := ∅
  mQueuedEvents : List CbtEvent := []
  mDisabled : Bool := false
  mBudgetMode : Bool := false
  mShouldShutdown : Bool := false
  mShutdown : Bool := false
  connected : Bool := false
  mConnectionContext : Option ConnectionId := none
  contexts : ConnectionId → Client.ConnectionContext := fun _ => {}
  opened : List ConnectionId := []
  queue : List Tag := []
  position : Client.Position := .asyncNext

namespace Client

variable (x : Client)

def goto (position : Position) : Client := { x with position := position }

def modify (context : ConnectionId) (f : ConnectionContext → ConnectionContext) : Client :=
  { x with contexts := Function.update x.contexts context (f (x.contexts context)) }

def enqueue (tag : Tag) : Client := { x with queue := tag :: x.queue }

/-- `QueueEvent`: the queue afterwards and whether it took the event. -/
def queueEvent (event : CbtEvent) (isImportant : Bool) : Client × Bool :=
  if (isImportant = false ∧ 5000 < x.mQueuedEvents.length) ∨ 10000 < x.mQueuedEvents.length then
    (x, false)
  else ({ x with mQueuedEvents := x.mQueuedEvents ++ [event] }, true)

/-- `ProcessLocalEvent` with an event. -/
def processLocalEvent (c : Enums) (event : CbtEvent) : Client :=
  if sendsEvent c x.mBudgetMode event then (x.queueEvent event false).1 else x

/-- The connection that is in use is given up, without or with a word to
`GetStatus`. -/
def clear (context : ConnectionId) : Client :=
  if x.mConnectionContext = some context then { x with mConnectionContext := none } else x

def clearStatus (context : ConnectionId) : Client :=
  if x.mConnectionContext = some context then
    { x with mConnectionContext := none, connected := false }
  else x

def forceDisconnect (context : ConnectionId) : Client :=
  if (x.contexts context).forceDisconnected = true then x else x.clear context

/-- The next read that `HandleReadMessage` starts. -/
def readNext (context : ConnectionId) : Client :=
  if x.mShutdown = false then x.enqueue ⟨.readMessage, context⟩ else x

def handleReadMessage (context : ConnectionId) (data : List UInt8) : Client :=
  match parse data with
  | .error _ => (x.readNext context).forceDisconnect context
  | .ok _ => x.readNext context

/-- The two `switch` statements over a tag. The data is what a read has brought. -/
def handle (tag : Tag) (ok : Bool) (data : List UInt8) : Client :=
  match tag.type with
  | .readMessage =>
    if ok = true then x.handleReadMessage tag.context data
    else if x.mShutdown = false then x.clearStatus tag.context
    else x
  | .connect =>
    if ok = true then
      if x.mConnectionContext = some tag.context then { x with connected := true } else x
    else if x.mShutdown = false then (x.enqueue ⟨.finish, tag.context⟩).clearStatus tag.context
    else x
  | .writesDone | .finish | .registerSelf | .addPeer | .removePeer | .combatEvent
  | .disconnect => x

/-- What follows both: a write that has completed is no longer pending. -/
def release (tag : Tag) : Client :=
  if tag.type.isWrite = true then
    if (x.contexts tag.context).writePending = true then
      (x.modify tag.context fun c => { c with writePending := false }).goto .branch
    else x.goto .assertFailed
  else x.goto .branch

/-- An event of the queue, which reports each operation once. -/
def complete (tag : Tag) (ok : Bool) (data : List UInt8) : Client :=
  ({ x with queue := x.queue.erase tag }.handle tag ok data).release tag

def branch : Branch :=
  if x.mShutdown = true then .nothing
  else if x.mShouldShutdown = true then .shutDown
  else if x.mDisabled = true then .nothing
  else
    match x.mConnectionContext with
    | none => .connect
    | some context =>
      if (x.contexts context).writePending = false then .send context else .nothing

def shutDown : Client :=
  { x with mShouldShutdown := false, mShutdown := true, position := .asyncNext }

/-- A new connection: its `Connect` counts as a write, and a read is queued. -/
def connect (context : ConnectionId) : Client :=
  { x with mConnectionContext := some context
           contexts := Function.update x.contexts context { writePending := true }
           opened := context :: x.opened
           queue := ⟨.connect, context⟩ :: ⟨.readMessage, context⟩ :: x.queue
           position := .asyncNext }

/-- The section under `mSelfInfoLock`. -/
def checkSelf (context : ConnectionId) : Client :=
  let registeredInstanceId := (x.contexts context).registeredInstanceId
  let ⟨accountName, instanceId⟩ := x.selfInfo
  if registeredInstanceId ≠ instanceId then
    if instanceId = 0 ∨ accountName = [] then x.goto .assertFailed
    else x.goto (.sendEvent context instanceId (.registerSelf instanceId accountName))
  else if registeredInstanceId ≠ 0 then x.goto (.peerEvent context instanceId)
  else x.goto .asyncNext

/-- `TryGetPeerEvent`, under `mPeerInfoLock`. -/
def checkPeers (context : ConnectionId) (instanceId : UInt16) : Client :=
  match tryGetPeerEvent x.mPeers (x.contexts context).registeredPeers with
  | .null => x.goto (.queuedEvent context instanceId)
  | .callData data registeredPeers =>
    (x.modify context fun c => { c with registeredPeers := registeredPeers }).goto
      (.sendEvent context instanceId data)
  | .assertFailed => x.goto .assertFailed

/-- The section under `mQueuedEventsLock`. -/
def checkQueue (context : ConnectionId) (instanceId : UInt16) : Client :=
  match x.mQueuedEvents with
  | [] => x.goto .asyncNext
  | event :: rest =>
    { x with mQueuedEvents := rest
             position := .sendEvent context instanceId (.combatEvent event) }

/-- `SendEvent`, which is told the message apart, and `WritePending = true`. -/
def sendEvent (context : ConnectionId) (data : CallData) : Client :=
  ((x.modify context fun c =>
      { c with registeredInstanceId := (data.message c.registeredInstanceId).2
               writePending := true }).enqueue ⟨data.type, context⟩).goto .asyncNext

inductive Label
  | internal
  | completed (tag : Tag) (ok : Bool)
  | opened (context : ConnectionId)
  | sent (context : ConnectionId) (instanceId : UInt16) (m : Message)
  deriving DecidableEq

/-- What the client asserts of its own agent when it is added, with the bound on
names that `SendEvent` asserts. -/
def ProperSelf (source destination : Ag) : Prop :=
  source.elite = 0 → source.prof ≠ 0 → destination.self ≠ 0 →
    destination.id.toUInt16 ≠ 0 ∧ destination.name.getD [] ≠ [] ∧
      (destination.name.getD []).length < 255

def ProperPeer (source destination : Ag) : Prop :=
  source.elite = 0 → source.prof ≠ 0 → destination.self = 0 →
    (destination.name.getD []).length < 255

/-- A section of a notification or of `Serve`. -/
inductive Step (c : Enums) (x : Client) : Label → Client → Prop
  | localAgent {source destination : Ag} (proper : ProperSelf source destination) :
      Step c x .internal { x with selfInfo := processLocalAgent x.selfInfo source destination }
  | areaAgent {source destination : Ag} (proper : ProperPeer source destination) :
      Step c x .internal { x with mPeers := processAreaAgent x.mPeers source destination }
  | localEvent (event : CbtEvent) : Step c x .internal (x.processLocalEvent c event)
  | setEnabledStatus (enabled : Bool) : Step c x .internal { x with mDisabled := !enabled }
  | setBudgetMode (budgetMode : Bool) : Step c x .internal { x with mBudgetMode := budgetMode }
  | shouldShutdown : Step c x .internal { x with mShouldShutdown := true }
  | timeout (here : x.position = .asyncNext) : Step c x .internal (x.goto .branch)
  | gotEvent {tag : Tag} {ok : Bool} {data : List UInt8} (here : x.position = .asyncNext)
      (queued : tag ∈ x.queue) : Step c x (.completed tag ok) (x.complete tag ok data)
  | gotShutdown (here : x.position = .asyncNext) (shut : x.mShutdown = true)
      (drained : x.queue = []) : Step c x .internal (x.goto .returned)
  | nothing (here : x.position = .branch) (branch : x.branch = .nothing) :
      Step c x .internal (x.goto .asyncNext)
  | shutDown (here : x.position = .branch) (branch : x.branch = .shutDown) :
      Step c x .internal x.shutDown
  | early (here : x.position = .branch) (branch : x.branch = .connect) :
      Step c x .internal (x.goto .asyncNext)
  | connect {context : ConnectionId} (here : x.position = .branch) (branch : x.branch = .connect)
      (fresh : context ∉ x.opened) : Step c x (.opened context) (x.connect context)
  | send {context : ConnectionId} (here : x.position = .branch)
      (branch : x.branch = .send context) : Step c x .internal (x.goto (.selfInfo context))
  | checkSelf {context : ConnectionId} (here : x.position = .selfInfo context) :
      Step c x .internal (x.checkSelf context)
  | checkPeers {context : ConnectionId} {instanceId : UInt16}
      (here : x.position = .peerEvent context instanceId) :
      Step c x .internal (x.checkPeers context instanceId)
  | checkQueue {context : ConnectionId} {instanceId : UInt16}
      (here : x.position = .queuedEvent context instanceId) :
      Step c x .internal (x.checkQueue context instanceId)
  | sendEvent {context : ConnectionId} {instanceId : UInt16} {data : CallData}
      (here : x.position = .sendEvent context instanceId data) (fits : data.fits = true) :
      Step c x (.sent context instanceId
          (data.message (x.contexts context).registeredInstanceId).1)
        (x.sendEvent context data)
  | tooLong {context : ConnectionId} {instanceId : UInt16} {data : CallData}
      (here : x.position = .sendEvent context instanceId data) (long : data.fits = false) :
      Step c x .internal (x.goto .assertFailed)

end Client

end ArcdpsHealing.Networking
