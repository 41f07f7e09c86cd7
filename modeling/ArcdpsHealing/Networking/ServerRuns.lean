import ArcdpsHealing.Lib.Run
import ArcdpsHealing.Networking.Server

namespace ArcdpsHealing.Networking

open Arcdps Lib

/-- Where a call of `HandleIncomingMessage` or `ForceDisconnect` stands. -/
inductive Call
  | idle
  | incoming (client : ConnectionId) (data : List UInt8)
  | sending (client : ConnectionId) (sends : List Send)
  | disconnecting (client : ConnectionId) (errorMessage : String)
  | done

structure World where
  server : Server
  calls : Nat → Call

inductive Event
  | received
  | ignored
  | accepted (m : Message)
  | rejected
  | sent (send : Send)
  | stamped
  | disconnected (errorMessage : String)
  deriving DecidableEq

/-- Which call, for which connection, and what is seen of the step. -/
structure Label where
  call : Nat
  client : ConnectionId
  event : Event
  deriving DecidableEq

namespace World

def initial (threshold : UInt64) : World :=
  ⟨{ conflictingClientDisconnectThresholdMs := threshold }, fun _ => .idle⟩

def goto (w : World) (k : Nat) (call : Call) : World :=
  { w with calls := Function.update w.calls k call }

def setServer (w : World) (s : Server) : World := { w with server := s }

variable (w : World) (k j : Nat) (call : Call) (s : Server)

@[grind =] theorem calls_goto : (w.goto k call).calls j = if j = k then call else w.calls j := by
  simp [goto, Function.update_apply]
@[simp] theorem calls_goto_self : (w.goto k call).calls k = call := by simp [goto]
@[simp, grind =] theorem server_goto : (w.goto k call).server = w.server := rfl
@[simp, grind =] theorem server_setServer : (w.setServer s).server = s := rfl
@[simp, grind =] theorem calls_setServer : (w.setServer s).calls j = w.calls j := rfl

end World

/-- One section of call `k`. Every number names one call only. -/
inductive Step (w : World) : Label → World → Prop
  | receive {k} (client : ConnectionId) (data : List UInt8) (h : w.calls k = .idle) :
      Step w ⟨k, client, .received⟩ (w.goto k (.incoming client data))
  | close {k} (client : ConnectionId) (errorMessage : String) (h : w.calls k = .idle) :
      Step w ⟨k, client, .received⟩ (w.goto k (.disconnecting client errorMessage))
  | malformed {k client data errorMessage} (h : w.calls k = .incoming client data)
      (parsed : Message.parse data = .error errorMessage) :
      Step w ⟨k, client, .rejected⟩ (w.goto k (.disconnecting client errorMessage))
  | ignore {k client data} (h : w.calls k = .incoming client data)
      (parsed : Message.parse data = .ok none) :
      Step w ⟨k, client, .ignored⟩ (w.goto k .done)
  | accept {k client data m s sends} (now : Int64) (h : w.calls k = .incoming client data)
      (parsed : Message.parse data = .ok (some m))
      (handled : w.server.handle now client m = .ok (s, sends)) :
      Step w ⟨k, client, .accepted m⟩ ((w.setServer s).goto k (.sending client sends))
  | reject {k client data m errorMessage} (now : Int64) (h : w.calls k = .incoming client data)
      (parsed : Message.parse data = .ok (some m))
      (handled : w.server.handle now client m = .error errorMessage) :
      Step w ⟨k, client, .rejected⟩ (w.goto k (.disconnecting client errorMessage))
  | send {k client send sends} (h : w.calls k = .sending client (send :: sends)) :
      Step w ⟨k, client, .sent send⟩ (w.goto k (.sending client sends))
  | stamp {k client} (now : Int64) (h : w.calls k = .sending client []) :
      Step w ⟨k, client, .stamped⟩ ((w.setServer (w.server.stamp now client)).goto k .done)
  | disconnect {k client errorMessage} (h : w.calls k = .disconnecting client errorMessage) :
      Step w ⟨k, client, .disconnected errorMessage⟩
        ((w.setServer (w.server.forceDisconnect client)).goto k .done)

end ArcdpsHealing.Networking
