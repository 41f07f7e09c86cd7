import ArcdpsHealing.Networking.ServerFrontend

namespace ArcdpsHealing.Networking

open Arcdps Lib

def StreamCall.written : StreamCall → Option CombatEvent
  | .write e => some e
  | .finish _ => none

namespace ConnectionInterface

variable (c : ConnectionInterface)

/-- `SendEvent` with its assertion. -/
def checkedSendEvent (e : CombatEvent) : Option (ConnectionInterface × List StreamCall) :=
  if c.writePending = false then some (c.sendEvent e) else none

/-- `SendEventToClient`, when assertions stop it. -/
def checkedSendEventToClient (event : CbtEvent) (senderInstanceId : UInt16) :
    Option (ConnectionInterface × List StreamCall) :=
  if c.writePending = false then c.checkedSendEvent ⟨event, senderInstanceId⟩
  else some ({ c with queuedEvents := c.queuedEvents ++ [⟨event, senderInstanceId⟩] }, [])

/-- `HandleWriteEvent` with its assertion and that of `SendEvent`. -/
def checkedHandleWriteEvent : Option (ConnectionInterface × List StreamCall) :=
  if c.writePending = true then
    match c.queuedEvents with
    | [] => some ({ c with writePending := false }, [])
    | e :: rest => { c with writePending := false, queuedEvents := rest }.checkedSendEvent e
  else none

theorem checkedSendEventToClient_eq (event : CbtEvent) (senderInstanceId : UInt16) :
    c.checkedSendEventToClient event senderInstanceId =
      some (c.sendEventToClient event senderInstanceId) := by
  unfold checkedSendEventToClient sendEventToClient checkedSendEvent
  cases writing : c.writePending with
  | false => rfl
  | true => rfl

theorem checkedHandleWriteEvent_eq (pending : c.writePending = true) :
    c.checkedHandleWriteEvent = some c.handleWriteEvent := by
  unfold checkedHandleWriteEvent handleWriteEvent
  rw [if_pos pending]
  cases c.queuedEvents with
  | nil => rfl
  | cons e rest => rfl

end ConnectionInterface

namespace Stream

def Op.accepted : Op → Option CombatEvent
  | .sendEventToClient event senderInstanceId => some ⟨event, senderInstanceId⟩
  | .writeCompleted _ => none
  | .forceDisconnect _ => none
  | .shutDown => none

def Op.Connected : Op → Prop
  | .sendEventToClient _ _ => True
  | .writeCompleted ok => ok = true
  | .forceDisconnect _ => False
  | .shutDown => False

def written (x : Stream) : List CombatEvent := x.issued.filterMap StreamCall.written

structure InOrder (accepted : List CombatEvent) (x : Stream) : Prop where
  online : x.isShuttingDown = false
  order : accepted = x.written ++ x.connection.queuedEvents
  single : x.outstanding ≤ 1
  pending : x.connection.writePending = true ↔ x.outstanding = 1
  idle : x.connection.writePending = false → x.connection.queuedEvents = []

variable {x y : Stream} {op : Op} {accepted : List CombatEvent}

theorem inOrder_step (h : InOrder accepted x) (connected : op.Connected) (step : Step x op y) :
    InOrder (accepted ++ op.accepted.toList) y := by
  obtain ⟨online, order, single, pending, idle⟩ := h
  cases step with
  | sendEventToClient =>
    unfold issue ConnectionInterface.sendEventToClient ConnectionInterface.sendEvent
    cases writing : x.connection.writePending with
    | false =>
      -- Nothing waits, so writing at once overtakes nothing.
      have none : x.outstanding = 0 := by grind
      have empty := idle writing
      constructor <;> simp_all [written, Op.accepted, StreamCall.written]
    | true =>
      constructor <;> simp_all [written, Op.accepted]
  | handleWriteEvent waiting online =>
    have one : x.outstanding = 1 := by omega
    unfold issue ConnectionInterface.handleWriteEvent ConnectionInterface.sendEvent
    cases queue : x.connection.queuedEvents with
    | nil => constructor <;> simp_all [written, Op.accepted]
    | cons e rest => constructor <;> simp_all [written, Op.accepted, StreamCall.written]
  | dropWriteEvent waiting late =>
    obtain failed | down := late
    · exact absurd (connected.symm.trans failed) (by decide)
    · exact absurd (online.symm.trans down) (by decide)
  | forceDisconnect => exact connected.elim
  | shutDown => exact connected.elim

theorem run_inOrder {ops : List Op} (run : Run Step {} ops x)
    (connected : ∀ op ∈ ops, op.Connected) : InOrder (ops.filterMap Op.accepted) x := by
  refine run.history (P := fun ops x => InOrder (ops.filterMap Op.accepted) x) Op.Connected
    (fun {ops _ op _} h connected step => ?_) ⟨rfl, rfl, by simp, by simp, fun _ => rfl⟩ connected
  have next := inOrder_step h connected step
  rw [List.filterMap_append]
  cases accepted : op.accepted with
  | none => simpa [accepted] using next
  | some e => simpa [accepted] using next

/-- The queue is first in, first out, and does not hold anything back. -/
theorem outgoing_queue {ops : List Op} (run : Run Step {} ops x)
    (connected : ∀ op ∈ ops, op.Connected) :
    let accepted := ops.filterMap Op.accepted
    let c := x.connection
    x.written <+: accepted ∧ accepted = x.written ++ c.queuedEvents ∧ x.outstanding ≤ 1 ∧
      (c.writePending = true ↔ x.outstanding = 1) ∧
      (c.writePending = false → c.queuedEvents = []) ∧
      (x.outstanding = 0 → x.written = accepted) ∧
      (∀ event senderInstanceId, c.checkedSendEventToClient event senderInstanceId =
        some (c.sendEventToClient event senderInstanceId)) ∧
      (0 < x.outstanding → c.checkedHandleWriteEvent = some c.handleWriteEvent) := by
  obtain ⟨-, order, single, pending, idle⟩ := run_inOrder run connected
  refine ⟨⟨_, order.symm⟩, order, single, pending, idle, fun none => ?_,
    x.connection.checkedSendEventToClient_eq, fun waiting => ?_⟩
  · have stopped : x.connection.writePending = false := by
      rw [← Bool.not_eq_true, pending, none]
      decide
    rw [order, idle stopped, List.append_nil]
  · exact x.connection.checkedHandleWriteEvent_eq (pending.mpr (by omega))

theorem outgoing_queue_waiting :
    let ops := [.sendEventToClient hit 1, .sendEventToClient hit 2, .sendEventToClient hit 3,
      .writeCompleted true]
    let x : Stream := ⟨⟨true, [⟨hit, 3⟩], false⟩, false, [.write ⟨hit, 1⟩, .write ⟨hit, 2⟩], 1⟩
    let accepted := ops.filterMap Op.accepted
    let c := x.connection
    x.written <+: accepted ∧ accepted = x.written ++ c.queuedEvents ∧ x.outstanding ≤ 1 ∧
      (c.writePending = true ↔ x.outstanding = 1) ∧
      (c.writePending = false → c.queuedEvents = []) ∧
      (x.outstanding = 0 → x.written = accepted) ∧
      (∀ event senderInstanceId, c.checkedSendEventToClient event senderInstanceId =
        some (c.sendEventToClient event senderInstanceId)) ∧
      (0 < x.outstanding → c.checkedHandleWriteEvent = some c.handleWriteEvent) :=
  outgoing_queue (.snoc (.snoc (.snoc (.snoc .nil .sendEventToClient) .sendEventToClient)
    .sendEventToClient) (.handleWriteEvent (by decide) rfl)) (by simp [Op.Connected])

end Stream

end ArcdpsHealing.Networking
