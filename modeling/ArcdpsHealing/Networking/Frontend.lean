import ArcdpsHealing.Networking.ServerFrontend
import ArcdpsHealing.Networking.ServerInvariant

/-! `ServerFrontendGrpc::Serve`, which turns completions into calls of the server. -/

namespace ArcdpsHealing.Networking

open Arcdps Lib

namespace Frontend

/-- `CallDataType`, each with its connection. `FinishCallData` is never made. -/
inductive Tag
  | connect (client : ConnectionId)
  | readMessage (client : ConnectionId)
  | writeEvent (client : ConnectionId)
  | disconnect (client : ConnectionId)
  | wakeUp
  deriving DecidableEq

structure CallData where
  address : Nat
  tag : Tag
  deriving DecidableEq

/-- Where `Serve` stands, with the completion that it has taken. -/
inductive Serving
  | notStarted
  | looping
  | taken (d : CallData) (ok : Bool)
  | stopping (d : CallData) (ok : Bool)
  | stopped (d : CallData) (ok : Bool)
  | handling (d : CallData) (ok : Bool)
  | returned
  deriving DecidableEq

def Serving.held : Serving → List CallData
  | notStarted => []
  | looping => []
  | taken d _ => [d]
  | stopping d _ => [d]
  | stopped d _ => [d]
  | handling d _ => [d]
  | returned => []

inductive ShutdownState
  | online
  | shouldShutdown
  | shuttingDown
  deriving DecidableEq

end Frontend

/-- The frontend with its server, what it asked of each stream, and its
completion queue. A `Shutdown` is `waking` until it has made the object for its
`alarm`. `late` is what was begun when the queue had been shut down. -/
structure Frontend where
  server : Server
  interfaces : ConnectionId → ConnectionInterface := fun _ => {}
  issued : ConnectionId → List StreamCall := fun _ => []
  contexts : Nat := 0
  shutdownState : Frontend.ShutdownState := .online
  waking : Bool := false
  alarm : Option Nat := none
  pending : List Frontend.CallData := []
  closed : Bool := false
  late : List Frontend.Tag := []
  allocated : Nat := 0
  deleted : List Nat := []
  serving : Frontend.Serving := .notStarted
  connectCallData : Nat := 0

namespace Frontend

variable (f : Frontend)

/-- An operation is begun, which leads to one completion. -/
def begin (d : CallData) : Frontend :=
  { f with
    pending := f.pending ++ [d]
    late := if f.closed = true then f.late ++ [d.tag] else f.late }

/-- `new`, with the operation that the object is for. -/
def beginNew (tag : Tag) : Frontend :=
  { f with allocated := f.allocated + 1 }.begin ⟨f.allocated, tag⟩

def delete (d : CallData) : Frontend := { f with deleted := f.deleted ++ [d.address] }

def perform (client : ConnectionId) (r : ConnectionInterface × List StreamCall) : Frontend :=
  { f with
    interfaces := Function.update f.interfaces client r.1
    issued := Function.update f.issued client (f.issued client ++ r.2) }

def sendEventToClient (s : Send) : Frontend :=
  let x := f.interfaces s.peer
  let f' := f.perform s.peer (x.sendEventToClient s.event s.senderInstanceId)
  if x.writePending = false then f'.beginNew (.writeEvent s.peer) else f'

/-- `IsShuttingDown` -/
def isShuttingDown : Bool := f.shutdownState = .shuttingDown

/-- `ConnectionInterfaceGrpc::ForceDisconnect`. The flag of the connection is
the server's. -/
def interfaceForceDisconnect (errorMessage : String) (client : ConnectionId) : Frontend :=
  let x := f.interfaces client
  let f' := f.perform client (x.forceDisconnect f.isShuttingDown errorMessage)
  if x.forceDisconnected = true then f'
  else if f.isShuttingDown = true then f'
  else f'.beginNew (.disconnect client)

/-- `evtc_rpc_server::ForceDisconnect` -/
def forceDisconnect (errorMessage : String) (client : ConnectionId) : Frontend :=
  { f with server := f.server.forceDisconnect client }.interfaceForceDisconnect errorMessage client

/-- The connection that a `RegisterSelf` takes the name from is closed. -/
def supersede (m : Message) : Frontend :=
  match m with
  | .registerSelf _ name =>
    match f.server.find name with
    | some entry => f.interfaceForceDisconnect "superseded by new client" entry.client
    | none => f
  | _ => f

def handle (now : Int64) (client : ConnectionId) (m : Message) : Except String Frontend :=
  match f.server.handle now client m with
  | .error errorMessage => .error errorMessage
  | .ok (s, sends) => .ok (sends.foldl sendEventToClient { f.supersede m with server := s })

def handleIncomingMessage (now now' : Int64) (data : List UInt8) (client : ConnectionId) :
    Frontend :=
  match Message.parse data with
  | .error errorMessage => f.forceDisconnect errorMessage client
  | .ok none => f
  | .ok (some m) =>
    match f.handle now client m with
    | .error errorMessage => f.forceDisconnect errorMessage client
    | .ok f => { f with server := f.server.stamp now' client }

def handleReadMessage (now now' : Int64) (data : List UInt8) (client : ConnectionId) : Frontend :=
  if data.length < Message.header.size then f.forceDisconnect "short message header" client
  else f.handleIncomingMessage now now' data client

/-- `HandleWriteEvent` begins the next write with the same object. -/
def handleWriteEvent (d : CallData) (client : ConnectionId) : Frontend :=
  let x := f.interfaces client
  let f' := f.perform client x.handleWriteEvent
  if x.queuedEvents.isEmpty = true then f'.delete d else f'.begin d

/-- `MakeConnectionContext`, and `RequestConnect` for it. -/
def requestConnect (address : Nat) : Frontend :=
  { f with contexts := f.contexts + 1 }.begin ⟨address, .connect f.contexts⟩

/-- `Serve` up to its loop. -/
def start : Frontend :=
  { f with
    allocated := f.allocated + 1
    serving := .looping
    connectCallData := f.allocated }.requestConnect f.allocated

/-- `mCompletionQueue->Next` -/
def take (d : CallData) (ok : Bool) : Frontend :=
  { f with pending := f.pending.erase d, serving := .taken d ok }

def check (d : CallData) (ok : Bool) : Frontend :=
  { f with serving :=
      if f.shutdownState = .shouldShutdown then .stopping d ok else .handling d ok }

/-- `mCompletionQueue->Shutdown`, once `mGrpcServer->Shutdown` has waited. -/
def closeQueue (d : CallData) (ok : Bool) : Frontend :=
  { f with closed := true, serving := .stopped d ok }

def setShuttingDown (d : CallData) (ok : Bool) : Frontend :=
  { f with
    shutdownState := if f.shutdownState = .shouldShutdown then .shuttingDown else f.shutdownState
    serving := .handling d ok }

def resume : Frontend := { f with serving := .looping }

/-- A completion that is not ok, or that comes too late. -/
def discard (d : CallData) : Frontend :=
  match d.tag with
  | .readMessage client => (f.forceDisconnect "shutdown by client" client).delete d
  | _ => f.delete d

/-- A completion. An accepted connection is read from, and the next one is
waited for with the object that was made at the start. -/
def process (d : CallData) (now now' : Int64) (data : List UInt8) : Frontend :=
  match d.tag with
  | .connect client => (f.beginNew (.readMessage client)).requestConnect f.connectCallData
  | .readMessage client => (f.handleReadMessage now now' data client).begin d
  | .writeEvent client => f.handleWriteEvent d client
  | .disconnect _ | .wakeUp => f.delete d

def initial (threshold : UInt64) : Frontend :=
  { server := { conflictingClientDisconnectThresholdMs := threshold } }

inductive Op
  | start
  | next (d : CallData) (ok : Bool)
  | check
  | closeQueue
  | setShuttingDown
  | discard (d : CallData)
  | process (d : CallData) (now now' : Int64) (data : List UInt8)
  | drained
  | shutdown
  | newWakeUp
  | setAlarm
  deriving DecidableEq

/-- The queue gives each completion back once, in any order, and says so when
it has been shut down and nothing is left. `Shutdown` is called from anywhere,
and its steps come at any time between those of the loop. -/
inductive Step (f : Frontend) : Op → Frontend → Prop
  | start (idle : f.serving = .notStarted) : Step f .start f.start
  | next {d ok} (looping : f.serving = .looping) (completed : d ∈ f.pending) :
      Step f (.next d ok) (f.take d ok)
  | check {d ok} (taken : f.serving = .taken d ok) : Step f .check (f.check d ok)
  | closeQueue {d ok} (stopping : f.serving = .stopping d ok) :
      Step f .closeQueue (f.closeQueue d ok)
  | setShuttingDown {d ok} (stopped : f.serving = .stopped d ok) :
      Step f .setShuttingDown (f.setShuttingDown d ok)
  | discard {d ok} (handling : f.serving = .handling d ok)
      (late : ok = false ∨ f.shutdownState = .shuttingDown) :
      Step f (.discard d) (f.resume.discard d)
  | process {d now now' data} (handling : f.serving = .handling d true)
      (online : f.shutdownState ≠ .shuttingDown) :
      Step f (.process d now now' data) (f.resume.process d now now' data)
  | drained (looping : f.serving = .looping) (closed : f.closed = true) (empty : f.pending = []) :
      Step f .drained { f with serving := .returned }
  | shutdown (online : f.shutdownState = .online) :
      Step f .shutdown { f with shutdownState := .shouldShutdown, waking := true }
  | shutdownAgain (late : f.shutdownState ≠ .online) : Step f .shutdown f
  | newWakeUp (waking : f.waking = true) :
      Step f .newWakeUp
        { f with
          waking := false
          alarm := some f.allocated
          allocated := f.allocated + 1 }
  | setAlarm {address} (made : f.alarm = some address) :
      Step f .setAlarm { f.begin ⟨address, .wakeUp⟩ with alarm := none }

section Lemmas

variable {f} {client : ConnectionId}

structure Frame (f g : Frontend) : Prop where
  server : g.server = f.server
  contexts : g.contexts = f.contexts
  shutdownState : g.shutdownState = f.shutdownState
  waking : g.waking = f.waking
  alarm : g.alarm = f.alarm
  closed : g.closed = f.closed
  deleted : g.deleted = f.deleted
  serving : g.serving = f.serving
  connectCallData : g.connectCallData = f.connectCallData

theorem Frame.rfl : Frame f f := by constructor <;> exact .refl _

theorem Frame.trans {g h : Frontend} (first : Frame f g) (second : Frame g h) : Frame f h := by
  obtain ⟨h1, h2, h3, h4, h5, h6, h7, h8, h9⟩ := first
  obtain ⟨k1, k2, k3, k4, k5, k6, k7, k8, k9⟩ := second
  exact ⟨k1.trans h1, k2.trans h2, k3.trans h3, k4.trans h4, k5.trans h5, k6.trans h6, k7.trans h7,
    k8.trans h8, k9.trans h9⟩

theorem frame_begin (d : CallData) : Frame f (f.begin d) := by constructor <;> exact .refl _

theorem frame_beginNew (tag : Tag) : Frame f (f.beginNew tag) := by constructor <;> exact .refl _

theorem frame_perform (r : ConnectionInterface × List StreamCall) :
    Frame f (f.perform client r) := by constructor <;> exact .refl _

section Perform

variable (r : ConnectionInterface × List StreamCall)

theorem interfaces_perform_self : (f.perform client r).interfaces client = r.1 :=
  Function.update_self _ _ _

theorem interfaces_perform_ne {c : ConnectionId} (other : c ≠ client) :
    (f.perform client r).interfaces c = f.interfaces c := Function.update_of_ne other _ _

theorem issued_perform_self : (f.perform client r).issued client = f.issued client ++ r.2 :=
  Function.update_self _ _ _

theorem issued_perform_ne {c : ConnectionId} (other : c ≠ client) :
    (f.perform client r).issued c = f.issued c := Function.update_of_ne other _ _

end Perform

theorem sendEventToClient_pending {s : Send} (pending : (f.interfaces s.peer).writePending = true) :
    f.sendEventToClient s = f.perform s.peer
      ((f.interfaces s.peer).sendEventToClient s.event s.senderInstanceId) :=
  if_neg (by rw [pending]; decide)

theorem sendEventToClient_free {s : Send} (free : (f.interfaces s.peer).writePending = false) :
    f.sendEventToClient s = (f.perform s.peer
      ((f.interfaces s.peer).sendEventToClient s.event s.senderInstanceId)).beginNew
        (.writeEvent s.peer) :=
  if_pos free

theorem handleWriteEvent_nil {d : CallData} (queue : (f.interfaces client).queuedEvents = []) :
    f.handleWriteEvent d client =
      (f.perform client (f.interfaces client).handleWriteEvent).delete d :=
  if_pos (by rw [queue]; rfl)

theorem handleWriteEvent_cons {d : CallData} {e : CombatEvent} {rest : List CombatEvent}
    (queue : (f.interfaces client).queuedEvents = e :: rest) :
    f.handleWriteEvent d client =
      (f.perform client (f.interfaces client).handleWriteEvent).begin d :=
  if_neg (by rw [queue]; simp)

theorem frame_sendEventToClient (s : Send) : Frame f (f.sendEventToClient s) := by
  unfold sendEventToClient
  dsimp only
  split
  · exact (frame_perform _).trans (frame_beginNew _)
  · exact frame_perform _

theorem frame_interfaceForceDisconnect (errorMessage : String) :
    Frame f (f.interfaceForceDisconnect errorMessage client) := by
  unfold interfaceForceDisconnect
  dsimp only
  split
  · exact frame_perform _
  · split
    · exact frame_perform _
    · exact (frame_perform _).trans (frame_beginNew _)

theorem frame_supersede (m : Message) : Frame f (f.supersede m) := by
  unfold supersede
  split
  · split
    · exact frame_interfaceForceDisconnect _
    · exact .rfl
  · exact .rfl

theorem frame_sends (sends : List Send) : Frame f (sends.foldl sendEventToClient f) := by
  induction sends generalizing f with
  | nil => exact .rfl
  | cons s sends ih => exact (frame_sendEventToClient s).trans ih

def accepted (now : Int64) (data : List UInt8) (client : ConnectionId) : List Send :=
  match Message.parse data with
  | .error _ => []
  | .ok none => []
  | .ok (some m) =>
    match f.server.handle now client m with
    | .error _ => []
    | .ok (_, sends) => sends

inductive Handles (f : Frontend) (client : ConnectionId) (data : List UInt8) :
    List Send → Frontend → Prop
  | ignored : Handles f client data [] f
  | rejected (errorMessage : String) :
      Handles f client data [] (f.forceDisconnect errorMessage client)
  | accepted {now now' m s sends} (parsed : Message.parse data = .ok (some m))
      (accepts : f.server.Accepts now client m s sends) :
      Handles f client data sends
        { sends.foldl sendEventToClient { f.supersede m with server := s } with
          server := s.stamp now' client }

theorem Handles.frame {g : Frontend} {data : List UInt8} {sends : List Send}
    (handles : Handles f client data sends g) : Frame { f with server := g.server } g := by
  cases handles with
  | ignored => exact .rfl
  | rejected errorMessage =>
    have frame : Frame { f with server := f.server.forceDisconnect client }
        (f.forceDisconnect errorMessage client) := frame_interfaceForceDisconnect errorMessage
    rw [frame.server]
    exact frame
  | @accepted now now' m s sends =>
    obtain ⟨-, h2, h3, h4, h5, h6, h7, h8, h9⟩ := (frame_supersede (f := f) m)
    obtain ⟨-, k2, k3, k4, k5, k6, k7, k8, k9⟩ :=
      frame_sends (f := { f.supersede m with server := s }) sends
    exact ⟨.refl _, k2.trans h2, k3.trans h3, k4.trans h4, k5.trans h5, k6.trans h6, k7.trans h7,
      k8.trans h8, k9.trans h9⟩

theorem handleReadMessage_handles (f : Frontend) (now now' : Int64) (data : List UInt8)
    (client : ConnectionId) : Handles f client data (f.accepted now data client)
      (f.handleReadMessage now now' data client) := by
  unfold handleReadMessage handleIncomingMessage handle accepted
  by_cases short : data.length < Message.header.size
  · have parsed : Message.parse data = .error "short message header" := by
      unfold Message.parse
      rw [if_pos short]
      rfl
    rw [if_pos short, parsed]
    exact .rejected _
  rw [if_neg short]
  cases parsed : Message.parse data with
  | error errorMessage => exact .rejected errorMessage
  | ok message =>
    cases message with
    | none => exact .ignored
    | some m =>
      dsimp only
      cases handled : f.server.handle now client m with
      | error errorMessage => exact .rejected errorMessage
      | ok result =>
        obtain ⟨s, sends⟩ := result
        have kept := (frame_sends (f := { f.supersede m with server := s }) sends).server
        dsimp only
        rw [kept]
        exact .accepted parsed (Server.handle_accepts handled)

def round (d : CallData) (now now' : Int64) (data : List UInt8) : List Op :=
  [.next d true, .check, .process d now now' data]

theorem step_taken (d : CallData) (now now' : Int64) (data : List UInt8)
    (online : f.shutdownState = .online) :
    Step ((f.take d true).check d true) (.process d now now' data)
      (((f.take d true).check d true).resume.process d now now' data) := by
  have handling : ((f.take d true).check d true).serving = .handling d true :=
    if_neg (by rw [take, online]; rintro ⟨⟩)
  refine .process handling ?_
  rw [check, take, online]
  rintro ⟨⟩

theorem run_round (d : CallData) (now now' : Int64) (data : List UInt8) {f₀ : Frontend}
    {ops : List Op} (before : Run Step f₀ ops f) (looping : f.serving = .looping)
    (completed : d ∈ f.pending) (online : f.shutdownState = .online) :
    Run Step f₀ (ops ++ round d now now' data)
      (((f.take d true).check d true).resume.process d now now' data) := by
  have taken : Run Step f₀ (ops ++ [.next d true] ++ [.check]) ((f.take d true).check d true) :=
    .snoc (.snoc before (.next looping completed)) (.check rfl)
  have all : ops ++ round d now now' data =
      ops ++ [.next d true] ++ [.check] ++ [.process d now now' data] := by
    simp [round]
  rw [all]
  exact taken.snoc (step_taken d now now' data online)

end Lemmas

end Frontend

end ArcdpsHealing.Networking
