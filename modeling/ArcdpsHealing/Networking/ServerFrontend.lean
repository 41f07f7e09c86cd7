import ArcdpsHealing.Arcdps.Structs
import ArcdpsHealing.Lib.Run

/-! What one connection of `ServerFrontendGrpc` asks of its gRPC stream. -/

namespace ArcdpsHealing.Networking

open Arcdps Lib

/-- `evtc_rpc::messages::CombatEvent`. -/
structure CombatEvent where
  event : CbtEvent
  senderInstanceId : UInt16
  deriving DecidableEq

/-- The calls on `Stream` that write. -/
inductive StreamCall
  | write (e : CombatEvent)
  | finish (errorMessage : String)
  deriving DecidableEq

namespace StreamCall

def isWrite : StreamCall → Bool
  | write _ => true
  | finish _ => false

def isFinish : StreamCall → Bool
  | write _ => false
  | finish _ => true

@[simp, grind =] theorem isWrite_write (e : CombatEvent) : (write e).isWrite = true := rfl
@[simp, grind =] theorem isWrite_finish (m : String) : (finish m).isWrite = false := rfl
@[simp, grind =] theorem isFinish_write (e : CombatEvent) : (write e).isFinish = false := rfl
@[simp, grind =] theorem isFinish_finish (m : String) : (finish m).isFinish = true := rfl

def WellOrdered (issued : List StreamCall) : Prop :=
  issued.Pairwise fun a b => a.isFinish = true → b.isWrite = false

instance (issued : List StreamCall) : Decidable (WellOrdered issued) :=
  inferInstanceAs (Decidable (List.Pairwise _ _))

theorem wellOrdered_write {issued : List StreamCall} {e : CombatEvent} :
    WellOrdered (issued ++ [write e]) ↔
      WellOrdered issued ∧ ∀ call ∈ issued, call.isFinish = false := by
  simp [WellOrdered, List.pairwise_append]

theorem wellOrdered_finish {issued : List StreamCall} {m : String} :
    WellOrdered (issued ++ [finish m]) ↔ WellOrdered issued := by
  simp [WellOrdered, List.pairwise_append]

end StreamCall

/-- The `ConnectionInterfaceGrpc` of a client and the `ForceDisconnected` flag
of its context. -/
structure ConnectionInterface where
  writePending : Bool := false
  queuedEvents : List CombatEvent := []
  forceDisconnected : Bool := false

namespace ConnectionInterface

variable (c : ConnectionInterface)

def sendEvent (e : CombatEvent) : ConnectionInterface × List StreamCall :=
  ({ c with writePending := true }, [.write e])

def sendEventToClient (event : CbtEvent) (senderInstanceId : UInt16) :
    ConnectionInterface × List StreamCall :=
  if c.writePending = false then c.sendEvent ⟨event, senderInstanceId⟩
  else ({ c with queuedEvents := c.queuedEvents ++ [⟨event, senderInstanceId⟩] }, [])

/-- `HandleWriteEvent`. -/
def handleWriteEvent : ConnectionInterface × List StreamCall :=
  match c.queuedEvents with
  | [] => ({ c with writePending := false }, [])
  | e :: rest => { c with writePending := false, queuedEvents := rest }.sendEvent e

def forceDisconnect (isShuttingDown : Bool) (errorMessage : String) :
    ConnectionInterface × List StreamCall :=
  if c.forceDisconnected = true then (c, [])
  else if isShuttingDown = true then ({ c with forceDisconnected := true }, [])
  else ({ c with forceDisconnected := true }, [.finish errorMessage])

end ConnectionInterface

/-- A connection, with what its stream has been asked for and how many writes
have not completed. -/
structure Stream where
  connection : ConnectionInterface := {}
  isShuttingDown : Bool := false
  issued : List StreamCall := []
  outstanding : Nat := 0

namespace Stream

inductive Op
  | sendEventToClient (event : CbtEvent) (senderInstanceId : UInt16)
  | writeCompleted (ok : Bool)
  | forceDisconnect (errorMessage : String)
  | shutDown
  deriving DecidableEq

def issue (x : Stream) (r : ConnectionInterface × List StreamCall) : Stream :=
  { x with connection := r.1, issued := x.issued ++ r.2
           outstanding := x.outstanding + r.2.countP StreamCall.isWrite }

/-- `WriteLock` makes each of these a step. A completion that is not ok, or that
comes while the frontend shuts down, is thrown away. -/
inductive Step (x : Stream) : Op → Stream → Prop
  | sendEventToClient {event senderInstanceId} :
      Step x (.sendEventToClient event senderInstanceId)
        (x.issue (x.connection.sendEventToClient event senderInstanceId))
  | handleWriteEvent (waiting : 0 < x.outstanding) (online : x.isShuttingDown = false) :
      Step x (.writeCompleted true)
        ({ x with outstanding := x.outstanding - 1 }.issue x.connection.handleWriteEvent)
  | dropWriteEvent {ok} (waiting : 0 < x.outstanding)
      (late : ok = false ∨ x.isShuttingDown = true) :
      Step x (.writeCompleted ok) { x with outstanding := x.outstanding - 1 }
  | forceDisconnect {errorMessage} :
      Step x (.forceDisconnect errorMessage)
        (x.issue (x.connection.forceDisconnect x.isShuttingDown errorMessage))
  | shutDown : Step x .shutDown { x with isShuttingDown := true }

/-- `Finish` has been issued. -/
def Finished (x : Stream) : Prop := ∃ call ∈ x.issued, call.isFinish = true

instance (x : Stream) : Decidable x.Finished := inferInstanceAs (Decidable (∃ _ ∈ _, _))

def Clean (x : Stream) : Op → Prop
  | .sendEventToClient _ _ => x.Finished → x.connection.writePending = true
  | .writeCompleted ok =>
    x.Finished → ok = true → x.isShuttingDown = false → x.connection.queuedEvents = []
  | .forceDisconnect _ => True
  | .shutDown => True

def CleanStep (x : Stream) (op : Op) (y : Stream) : Prop := Step x op y ∧ x.Clean op

structure Inv (x : Stream) : Prop where
  single : x.outstanding ≤ 1
  pending : 0 < x.outstanding → x.connection.writePending = true
  once : x.issued.countP StreamCall.isFinish ≤ 1
  flagged : x.connection.forceDisconnected = false → x.issued.countP StreamCall.isFinish = 0

variable {x y : Stream} {op : Op}

theorem inv_step (h : Inv x) (step : Step x op y) : Inv y := by
  obtain ⟨single, pending, once, flagged⟩ := h
  cases step with
  | sendEventToClient =>
    unfold issue ConnectionInterface.sendEventToClient ConnectionInterface.sendEvent
    cases writing : x.connection.writePending with
    | false => constructor <;> simp <;> grind
    | true => constructor <;> simp <;> grind
  | handleWriteEvent waiting online =>
    unfold issue ConnectionInterface.handleWriteEvent ConnectionInterface.sendEvent
    cases queue : x.connection.queuedEvents with
    | nil => constructor <;> simp <;> grind
    | cons e rest => constructor <;> simp <;> grind
  | dropWriteEvent waiting late => exact ⟨by grind, by grind, once, flagged⟩
  | forceDisconnect =>
    unfold issue ConnectionInterface.forceDisconnect
    split
    · constructor <;> simp <;> grind
    split
    · constructor <;> simp <;> grind
    · constructor <;> simp <;> grind
  | shutDown => exact ⟨single, pending, once, flagged⟩

theorem wellOrdered_step (h : StreamCall.WellOrdered x.issued) (step : Step x op y) :
    StreamCall.WellOrdered y.issued ↔ x.Clean op := by
  cases step with
  | sendEventToClient =>
    unfold issue ConnectionInterface.sendEventToClient ConnectionInterface.sendEvent Clean Finished
    cases writing : x.connection.writePending with
    | false => simp [StreamCall.wellOrdered_write, h]
    | true => simpa using h
  | handleWriteEvent waiting online =>
    unfold issue ConnectionInterface.handleWriteEvent ConnectionInterface.sendEvent Clean Finished
    cases queue : x.connection.queuedEvents with
    | nil => simpa using h
    | cons e rest => simp [StreamCall.wellOrdered_write, h, online]
  | dropWriteEvent waiting late => 
    simp only [h, Clean, true_iff]
    grind
  | forceDisconnect =>
    unfold issue ConnectionInterface.forceDisconnect Clean
    split
    · simpa using h
    split
    · simpa using h
    · simp [StreamCall.wellOrdered_finish, h]
  | shutDown => simpa [Clean] using h

theorem prefix_issued (step : Step x op y) : x.issued <+: y.issued := by
  cases step with
  | sendEventToClient | handleWriteEvent | forceDisconnect => exact List.prefix_append _ _
  | dropWriteEvent | shutDown => exact List.prefix_rfl

theorem run_inv {ops : List Op} (run : Run Step {} ops x) : Inv x :=
  run.invariant (P := Inv) (fun _ => True) (fun h _ step => inv_step h step)
    ⟨by simp, by simp, by simp, by simp⟩ (by simp)

theorem run_wellOrdered {ops : List Op} (run : Run Step {} ops x) :
    StreamCall.WellOrdered x.issued ↔ Run CleanStep {} ops x := by
  constructor
  · intro after
    induction run with
    | nil => exact .nil
    | snoc before step ih =>
      have ordered := after.sublist (prefix_issued step).sublist
      exact (ih ordered).snoc ⟨step, (wellOrdered_step ordered step).mp after⟩
  · intro clean
    exact clean.invariant (P := fun x => StreamCall.WellOrdered x.issued) (fun _ => True)
      (fun ordered _ step => (wellOrdered_step ordered step.1).mpr step.2)
      (show StreamCall.WellOrdered [] from List.Pairwise.nil) (by simp)

/-- `Finish` is issued once at most and one write is outstanding at most; no
write follows `Finish` exactly if no step starts one on a finished stream. -/
theorem stream_discipline {ops : List Op} (run : Run Step {} ops x) :
    x.issued.countP StreamCall.isFinish ≤ 1 ∧ x.outstanding ≤ 1 ∧
      (StreamCall.WellOrdered x.issued ↔ Run CleanStep {} ops x) :=
  ⟨(run_inv run).once, (run_inv run).single, run_wellOrdered run⟩

section Witness

def hit : CbtEvent :=
  ⟨1, 2, 3, 4, 0, 0, 5, 5, 9, 0, 0, 1, 0, 0, 0, 0, 0, 0, 0, 0, 0, 0, 0, 0, 0, 0, 0⟩

def superseded : List Op :=
  [.sendEventToClient hit 1, .sendEventToClient hit 2,
    .forceDisconnect "superseded by new client", .writeCompleted true]

/-- The queue is served as if nothing had happened. -/
theorem write_after_finish :
    Run Step {} superseded
      ⟨⟨true, [], true⟩, false,
        [.write ⟨hit, 1⟩, .finish "superseded by new client", .write ⟨hit, 2⟩], 1⟩ ∧
      ¬ StreamCall.WellOrdered
        [.write ⟨hit, 1⟩, .finish "superseded by new client", .write ⟨hit, 2⟩] :=
  ⟨.snoc (.snoc (.snoc (.snoc .nil .sendEventToClient) .sendEventToClient) .forceDisconnect)
    (.handleWriteEvent (by decide) rfl), by decide⟩

def emptied : List Op :=
  [.sendEventToClient hit 1, .sendEventToClient hit 2, .writeCompleted true,
    .forceDisconnect "superseded by new client", .writeCompleted true,
    .forceDisconnect "short message header"]

theorem stream_discipline_emptied :
    let x : Stream := ⟨⟨false, [], true⟩, false,
      [.write ⟨hit, 1⟩, .write ⟨hit, 2⟩, .finish "superseded by new client"], 0⟩
    x.issued.countP StreamCall.isFinish ≤ 1 ∧ x.outstanding ≤ 1 ∧ Run CleanStep {} emptied x := by
  intro x
  have run : Run Step {} emptied x :=
    .snoc (.snoc (.snoc (.snoc (.snoc (.snoc .nil .sendEventToClient) .sendEventToClient)
      (.handleWriteEvent (by decide) rfl)) .forceDisconnect)
      (.handleWriteEvent (by decide) rfl)) .forceDisconnect
  obtain ⟨once, single, order⟩ := stream_discipline run
  exact ⟨once, single, order.mp (by decide)⟩

end Witness

end Stream

end ArcdpsHealing.Networking
