import ArcdpsHealing.Networking.Serve

namespace ArcdpsHealing.Networking

open Arcdps

def Message.event : Message → Option CbtEvent
  | .registerSelf _ _ => none
  | .setSelfId _ => none
  | .addPeer _ _ => none
  | .removePeer _ => none
  | .combatEvent event => some event

namespace Client

def Position.event : Position → Option CbtEvent
  | .sendEvent _ _ (.combatEvent event) => some event
  | _ => none

def unsent (x : Client) : List CbtEvent := x.position.event.toList ++ x.mQueuedEvents

def Label.event : Label → Option CbtEvent
  | .internal => none
  | .completed _ _ => none
  | .opened _ => none
  | .sent _ _ m => m.event

variable {c : Enums} {x y : Client} {l : Label} {event : CbtEvent}

theorem processLocalEvent_of_sends (sends : sendsEvent c x.mBudgetMode event)
    (room : x.mQueuedEvents.length ≤ 5000) :
    x.processLocalEvent c event = { x with mQueuedEvents := x.mQueuedEvents ++ [event] } := by
  have free : ¬ ((false = false ∧ 5000 < x.mQueuedEvents.length) ∨
      10000 < x.mQueuedEvents.length) := by
    omega
  rw [processLocalEvent, if_pos sends, queueEvent, if_neg free]

theorem processLocalEvent_of_not_sends (spared : ¬ sendsEvent c x.mBudgetMode event) :
    x.processLocalEvent c event = x := if_neg spared

theorem processLocalEvent_eq (fewer : (x.processLocalEvent c event).mQueuedEvents.length ≤
    x.mQueuedEvents.length) : x.processLocalEvent c event = x := by
  unfold processLocalEvent queueEvent at fewer ⊢
  split at fewer
  · rename_i sends
    rw [if_pos sends]
    split at fewer
    · rename_i full
      rw [if_pos full]
    · exact absurd fewer (by simp)
  · rename_i spared
    rw [if_neg spared]

theorem mQueuedEvents_complete (x : Client) (tag : Tag) (ok : Bool) (data : List UInt8) :
    (x.complete tag ok data).mQueuedEvents = x.mQueuedEvents := by
  simp only [complete, release, handle, handleReadMessage, forceDisconnect, readNext, clear,
    clearStatus, enqueue, goto, modify]
  grind

theorem position_complete (x : Client) (tag : Tag) (ok : Bool) (data : List UInt8) :
    (x.complete tag ok data).position.event = none := by
  unfold complete release
  split
  · split <;> rfl
  · rfl

theorem unsent_goto {position : Position} (after : position.event = none)
    (before : x.position.event = none) : (x.goto position).unsent = x.unsent := by
  have same : (x.goto position).unsent = position.event.toList ++ x.mQueuedEvents := rfl
  rw [same, unsent, after, before]

theorem unsent_checkSelf {context : ConnectionId} (here : x.position = .selfInfo context) :
    (x.checkSelf context).unsent = x.unsent := by
  have before : x.position.event = none := by
    rw [here]
    rfl
  unfold checkSelf
  dsimp only
  split
  · split <;> exact unsent_goto rfl before
  · split <;> exact unsent_goto rfl before

theorem unsent_checkPeers {context : ConnectionId} {instanceId : UInt16}
    (here : x.position = .peerEvent context instanceId) :
    (x.checkPeers context instanceId).unsent = x.unsent := by
  have before : x.position.event = none := by
    rw [here]
    rfl
  have polls := tryGetPeerEvent_polls x.mPeers (x.contexts context).registeredPeers
  unfold checkPeers
  generalize tryGetPeerEvent x.mPeers (x.contexts context).registeredPeers = found at polls
  cases polls with
  | null => exact unsent_goto rfl before
  | remove | add => exact unsent_goto (x := x.modify context _) rfl before

theorem unsent_checkQueue {context : ConnectionId} {instanceId : UInt16}
    (here : x.position = .queuedEvent context instanceId) :
    (x.checkQueue context instanceId).unsent = x.unsent := by
  have before : x.position.event = none := by
    rw [here]
    rfl
  unfold checkQueue
  split
  · exact unsent_goto rfl before
  · rename_i event rest queued
    rw [unsent, unsent, before, queued]
    rfl

theorem unsent_sendEvent {context : ConnectionId} {instanceId : UInt16} {data : CallData}
    (here : x.position = .sendEvent context instanceId data) :
    ((data.message (x.contexts context).registeredInstanceId).1.event).toList ++
      (x.sendEvent context data).unsent = x.unsent := by
  have after : (x.sendEvent context data).unsent = x.mQueuedEvents := rfl
  rw [after, unsent, here]
  cases data with
  | registerSelf id name =>
    unfold CallData.message
    dsimp only
    split <;> rfl
  | addPeer | removePeer | combatEvent => rfl

theorem unsent_step (step : Step c x l y)
    (fewer : y.mQueuedEvents.length ≤ x.mQueuedEvents.length) :
    l.event.toList ++ y.unsent = x.unsent := by
  -- Whatever the client does, but for queueing an event: what has been queued is written in
  -- order, and nothing of it is lost.
  have idle {position : Position} (here : x.position = position) (free : position.event = none) :
      x.position.event = none := by
    rw [here]
    exact free
  cases step with
  | localAgent | areaAgent | setEnabledStatus | setBudgetMode | shouldShutdown => rfl
  | localEvent event => rw [processLocalEvent_eq fewer]; rfl
  | timeout here | gotShutdown here | nothing here | early here | send here =>
    exact unsent_goto rfl (idle here rfl)
  | gotEvent here queued =>
    rw [unsent, unsent, position_complete, mQueuedEvents_complete, idle here rfl]
    rfl
  | shutDown here | connect here =>
    rw [unsent, unsent, idle here rfl]
    rfl
  | checkSelf here => exact unsent_checkSelf here
  | checkPeers here => exact unsent_checkPeers here
  | checkQueue here => exact unsent_checkQueue here
  | sendEvent here fits => exact unsent_sendEvent here
  | @tooLong context instanceId data here long =>
    refine unsent_goto rfl ?_
    rw [here]
    cases data with
    | registerSelf | addPeer | removePeer => rfl
    | combatEvent => cases long

theorem short_of_sent {context : ConnectionId} {instanceId : UInt16} {m : Message}
    (step : Step c x (.sent context instanceId m) y) : m.Short := by
  cases step with
  | sendEvent here fits => exact CallData.short_message fits _

end Client

end ArcdpsHealing.Networking
