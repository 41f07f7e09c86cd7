import ArcdpsHealing.Networking.Conformance
import ArcdpsHealing.Networking.ServerInvariant

/-! A client, the server and what is under way between them. -/

namespace ArcdpsHealing.Networking

open Arcdps Lib

def Call.On (client : ConnectionId) : Call → Prop
  | .idle => False
  | .incoming c _ => c = client
  | .sending c _ => c = client
  | .disconnecting c _ => c = client
  | .done => False

namespace World

def superseded (w : World) (l : Label) : Option ConnectionId :=
  match l.event with
  | .accepted (.registerSelf _ name) => (w.server.find name).map (·.client)
  | .accepted (.setSelfId _) => none
  | .accepted (.addPeer _ _) => none
  | .accepted (.removePeer _) => none
  | .accepted (.combatEvent _) => none
  | .received => none
  | .ignored => none
  | .rejected => none
  | .sent _ => none
  | .stamped => none
  | .disconnected _ => none

def Quiet (w : World) (client : ConnectionId) : Prop := ∀ k, ¬ (w.calls k).On client

def Only (w : World) (client : ConnectionId) (call : Call) : Prop :=
  ∃ k, w.calls k = call ∧ ∀ j, (w.calls j).On client → j = k

end World

section Handlers

variable {s s' : Server} {client : ConnectionId} {now : Int64} {m : Message} {sends : List Send}

theorem Server.Accepts.isSome_iterator (accepted : s.Accepts now client m s' sends) :
    (s'.connections client).iterator.isSome = true := by
  cases accepted <;> grind

theorem Server.handle_registered (registered : (s.connections client).iterator.isSome = true)
    (later : ¬ m.IsRegisterSelf) (now : Int64) : ∃ result, s.handle now client m = .ok result := by
  cases m with
  | registerSelf selfId name => exact absurd trivial later
  | setSelfId selfId => exact ⟨_, (Accepts.setSelfId registered).handle⟩
  | addPeer peerId name => exact ⟨_, (Accepts.addPeer registered).handle⟩
  | removePeer peerId => exact ⟨_, (Accepts.removePeer registered).handle⟩
  | combatEvent event => exact ⟨_, (Accepts.combatEvent registered).handle⟩

theorem Server.handle_registerSelf (unregistered : (s.connections client).iterator = none)
    (online : (s.connections client).forceDisconnected = false) (selfId : UInt16)
    (name : AccountName) (now : Int64) :
    (∃ result, s.handle now client (.registerSelf selfId name) = .ok result) ∨
      s.handle now client (.registerSelf selfId name) = .error "account name collision" := by
  -- A first `RegisterSelf` can only fail because of its name.
  simp only [handle, handleRegisterSelf, unregistered, online]
  cases s.find name with
  | none => exact .inl ⟨_, rfl⟩
  | some entry =>
    by_cases recent : millisecondsSince now (s.connections entry.client).lastCallTime <
        s.conflictingClientDisconnectThresholdMs
    · right
      simp [recent, Functor.map, Except.map]
    · left
      simp [recent, Functor.map, Except.map]

end Handlers

section Foreign

variable {w w' : World} {l : Label} {client : ConnectionId} {call : Call}

theorem calls_foreign (step : Step w l w') (foreign : l.client ≠ client) (k : Nat)
    (on : call.On client) : w'.calls k = call ↔ w.calls k = call := by
  cases step with
  | receive | close | malformed | ignore | accept | reject | send | stamp | disconnect =>
    rw [World.calls_goto]
    split
    · subst k
      cases call <;> grind [Call.On]
    · rfl

theorem connections_foreign (step : Step w l w') (foreign : l.client ≠ client) :
    ((w'.server.connections client).iterator = (w.server.connections client).iterator ∧
      (w'.server.connections client).forceDisconnected =
        (w.server.connections client).forceDisconnected) ∨
      w.superseded l = some client := by
  cases step with
  | accept now h parsed handled =>
    have accepted := Server.handle_accepts handled
    cases accepted with
    | takeOver online unregistered taken stale => grind [World.superseded]
    | register | setSelfId | addPeer | removePeer | combatEvent => grind
  | stamp | disconnect => grind
  | receive | close | malformed | ignore | reject | send => exact .inl ⟨rfl, rfl⟩

theorem Consistent.superseded (h : Consistent w.server) (lost : w.superseded l = some client) :
    (w.server.connections client).iterator.isSome = true := by
  unfold World.superseded at lost
  split at lost
  · obtain ⟨entry, found, same⟩ := Option.map_eq_some_iff.mp lost
    have registered := (h.paired _ entry.node entry.client).mp found
    rw [← same, registered]
    rfl
  all_goals cases lost

theorem World.Quiet.foreign (h : w.Quiet client) (step : Step w l w')
    (foreign : l.client ≠ client) :
    w'.Quiet client :=
  fun k on => h k (by rwa [(calls_foreign step foreign k on).mp rfl])

theorem World.Only.foreign (h : w.Only client call) (on : call.On client) (step : Step w l w')
    (foreign : l.client ≠ client) : w'.Only client call := by
  obtain ⟨k, here, others⟩ := h
  refine ⟨k, (calls_foreign step foreign k on).mpr here, fun j on' => others j ?_⟩
  rwa [(calls_foreign step foreign j on').mp rfl]

end Foreign

section Own

variable {w w' : World} {l : Label} {client : ConnectionId} {call : Call} {k : Nat}

theorem on_calls (step : Step w l w') (busy : l.event ≠ .received) :
    (w.calls l.call).On l.client := by
  cases step with
  | receive | close => exact absurd rfl busy
  | malformed h | ignore h | accept _ h | reject _ h | send h | stamp _ h | disconnect h =>
    rw [h]
    exact rfl

theorem incoming_before {data : List UInt8} (step : Step w l w') (busy : l.event ≠ .received)
    (incoming : w'.calls k = .incoming client data) : w.calls k = .incoming client data := by
  cases step with
  | receive | close => exact absurd rfl busy
  | malformed | ignore | accept | reject | send | stamp | disconnect =>
    rw [World.calls_goto] at incoming
    split at incoming
    · cases incoming
    · exact incoming

theorem step_incoming {data : List UInt8} {m : Message} (step : Step w l w')
    (busy : l.event ≠ .received) (here : w.calls l.call = .incoming client data)
    (parses : Message.parse data = .ok (some m)) :
    ∃ now,
      (∃ s sends, w.server.handle now client m = .ok (s, sends) ∧
        w' = (w.setServer s).goto l.call (.sending client sends)) ∨
      ∃ errorMessage, w.server.handle now client m = .error errorMessage ∧
        w' = w.goto l.call (.disconnecting client errorMessage) := by
  cases step with
  | receive | close => exact absurd rfl busy
  | malformed h parsed | ignore h parsed =>
    cases h.symm.trans here
    cases parsed.symm.trans parses
  | accept now h parsed handled =>
    cases h.symm.trans here
    cases parsed.symm.trans parses
    exact ⟨now, .inl ⟨_, _, handled, rfl⟩⟩
  | reject now h parsed handled =>
    cases h.symm.trans here
    cases parsed.symm.trans parses
    exact ⟨now, .inr ⟨_, handled, rfl⟩⟩
  | send h | stamp _ h | disconnect h => cases h.symm.trans here

theorem step_sending {sends : List Send} (step : Step w l w') (busy : l.event ≠ .received)
    (here : w.calls l.call = .sending client sends) :
    (∃ rest, w' = w.goto l.call (.sending client rest)) ∨
      ∃ now, w' = (w.setServer (w.server.stamp now client)).goto l.call .done := by
  cases step with
  | receive | close => exact absurd rfl busy
  | send h =>
    cases h.symm.trans here
    exact .inl ⟨_, rfl⟩
  | stamp now h =>
    cases h.symm.trans here
    exact .inr ⟨now, rfl⟩
  | malformed h | ignore h | accept _ h | reject _ h | disconnect h => cases h.symm.trans here

theorem step_disconnecting {errorMessage : String} (step : Step w l w')
    (busy : l.event ≠ .received) (here : w.calls l.call = .disconnecting client errorMessage) :
    l = ⟨l.call, client, .disconnected errorMessage⟩ ∧
      w' = (w.setServer (w.server.forceDisconnect client)).goto l.call .done := by
  cases step with
  | receive | close => exact absurd rfl busy
  | disconnect h =>
    cases h.symm.trans here
    exact ⟨rfl, rfl⟩
  | malformed h | ignore h | accept _ h | reject _ h | send h | stamp _ h =>
    cases h.symm.trans here

theorem World.Only.own (h : w.Only client call) (step : Step w l w') (own : l.client = client)
    (busy : l.event ≠ .received) :
    w.calls l.call = call ∧ ∀ j, (w.calls j).On client → j = l.call := by
  obtain ⟨k, here, others⟩ := h
  have same := others l.call (own ▸ on_calls step busy)
  rw [same]
  exact ⟨here, others⟩

theorem World.only_goto (others : ∀ j, (w.calls j).On client → j = k) :
    (w.goto k call).Only client call := by
  refine ⟨k, by simp, fun j on => ?_⟩
  rw [World.calls_goto] at on
  split at on
  · assumption
  · exact others j on

theorem World.quiet_goto (others : ∀ j, (w.calls j).On client → j = k) (off : ¬ call.On client) :
    (w.goto k call).Quiet client := by
  intro j on
  rw [World.calls_goto] at on
  split at on
  · exact off on
  · exact absurd (others j on) (by assumption)

theorem World.Only.eq {j : Nat} (h : w.Only client call) (on : (w.calls j).On client) :
    w.calls j = call := by
  obtain ⟨k, here, others⟩ := h
  rw [others j on, here]

theorem World.Only.ne {j : Nat} {errorMessage : String} (h : w.Only client call)
    (other : call ≠ .disconnecting client errorMessage) :
    w.calls j ≠ .disconnecting client errorMessage :=
  fun here => other ((h.eq (by rw [here]; exact rfl)).symm.trans here)

theorem World.Only.unique {call' : Call} (h : w.Only client call) (h' : w.Only client call')
    (on : call.On client) : call = call' := by
  obtain ⟨k, here, -⟩ := h
  rw [← here]
  exact h'.eq (by rwa [here])

end Own

structure Network where
  client : Client := {}
  inFlight : ConnectionId → List Message := fun _ => []
  read : ConnectionId → List Message := fun _ => []
  reading : ConnectionId → Bool := fun _ => true
  world : World

namespace Network

inductive Label
  | client (l : Client.Label)
  | server (l : Networking.Label) (superseded : Option ConnectionId)
  deriving DecidableEq

def initial (threshold : UInt64) : Network := { world := .initial threshold }

def follow (x : Network) (l : Client.Label) (y : Client) : Network :=
  { x with client := y
           inFlight := fun c => x.inFlight c ++ (Client.emitted c [l]).map (·.2) }

def receive (x : Network) (k : Nat) (client : ConnectionId) (m : Message)
    (rest : List Message) : Network :=
  { x with inFlight := Function.update x.inFlight client rest
           read := Function.update x.read client (x.read client ++ [m])
           world := x.world.goto k (.incoming client m.encode) }

def hangUp (x : Network) (k : Nat) (client : ConnectionId) : Network :=
  { x with reading := Function.update x.reading client false
           world := x.world.goto k (.disconnecting client "shutdown by client") }

/-- The client's own connections are `mine`. The server reads the next message
of a connection when it is done with the last one, until a read fails. Of other
connections it may be told anything. -/
inductive Step (c : Enums) (mine : ConnectionId → Prop) (x : Network) : Label → Network → Prop
  | client {l : Client.Label} {y : Client} (step : Client.Step c x.client l y)
      (own : ∀ context, l = .opened context → mine context) :
      Step c mine x (.client l) (x.follow l y)
  | receive {k : Nat} {client : ConnectionId} {m : Message} {rest : List Message}
      (own : mine client) (next : x.inFlight client = m :: rest) (quiet : x.world.Quiet client)
      (reading : x.reading client = true) (unused : x.world.calls k = .idle) :
      Step c mine x (.server ⟨k, client, .received⟩ none) (x.receive k client m rest)
  | hangUp {k : Nat} {client : ConnectionId} (own : mine client) (quiet : x.world.Quiet client)
      (reading : x.reading client = true) (unused : x.world.calls k = .idle) :
      Step c mine x (.server ⟨k, client, .received⟩ none) (x.hangUp k client)
  | server {l : Networking.Label} {w : World} (step : Networking.Step x.world l w)
      (handles : mine l.client → l.event ≠ .received) :
      Step c mine x (.server l (x.world.superseded l)) { x with world := w }

def clientLabels (ls : List Label) : List Client.Label :=
  ls.filterMap fun l =>
    match l with
    | .client l => some l
    | .server _ _ => none

def serverLabels (ls : List Label) : List Networking.Label :=
  ls.filterMap fun l =>
    match l with
    | .client _ => none
    | .server l _ => some l

section Projections

variable {c : Enums} {mine : ConnectionId → Prop} {x y : Network} {ls : List Label}
  {threshold : UInt64}

@[simp] theorem clientLabels_client (l : Client.Label) :
    clientLabels (ls ++ [.client l]) = clientLabels ls ++ [l] :=
  List.filterMap_append

@[simp] theorem clientLabels_server (l : Networking.Label) (s : Option ConnectionId) :
    clientLabels (ls ++ [.server l s]) = clientLabels ls := by
  simp [clientLabels]

@[simp] theorem serverLabels_client (l : Client.Label) :
    serverLabels (ls ++ [.client l]) = serverLabels ls := by
  simp [serverLabels]

@[simp] theorem serverLabels_server (l : Networking.Label) (s : Option ConnectionId) :
    serverLabels (ls ++ [.server l s]) = serverLabels ls ++ [l] :=
  List.filterMap_append

theorem run_client (run : Run (Step c mine) (initial threshold) ls x) :
    Run (Client.Step c) {} (clientLabels ls) x.client := by
  induction run with
  | nil => exact .nil
  | snoc _ step ih =>
    cases step with
    | client step own =>
      rw [clientLabels_client]
      exact ih.snoc step
    | receive | hangUp | server =>
      rw [clientLabels_server]
      exact ih

theorem run_server (run : Run (Step c mine) (initial threshold) ls x) :
    Run Networking.Step (.initial threshold) (serverLabels ls) x.world := by
  induction run with
  | nil => exact .nil
  | snoc _ step ih =>
    cases step with
    | client step own =>
      rw [serverLabels_client]
      exact ih
    | receive own next quiet reading unused =>
      rw [serverLabels_server]
      exact ih.snoc (.receive _ _ unused)
    | hangUp own quiet reading unused =>
      rw [serverLabels_server]
      exact ih.snoc (.close _ _ unused)
    | server step handles =>
      rw [serverLabels_server]
      exact ih.snoc step

theorem run_read (run : Run (Step c mine) (initial threshold) ls x) (d : ConnectionId) :
    x.read d ++ x.inFlight d = (Client.emitted d (clientLabels ls)).map (·.2) := by
  induction run with
  | nil => rfl
  | snoc _ step ih =>
    cases step with
    | client step own =>
      rw [clientLabels_client, Client.emitted_snoc, List.map_append, ← ih]
      simp [follow]
    | @receive k client m rest own next quiet reading unused =>
      rw [clientLabels_server, ← ih]
      by_cases same : d = client
      · subst same
        simp [Network.receive, next]
      · simp [Network.receive, same]
    | hangUp | server =>
      rw [clientLabels_server]
      exact ih

end Projections

end Network

end ArcdpsHealing.Networking
