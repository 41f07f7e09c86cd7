import ArcdpsHealing.Networking.Routing

namespace ArcdpsHealing.Networking

open Arcdps Lib

/-- A call into the server. A message comes with the two readings of the clock
that its handling may make. -/
inductive Op
  | message (client : ConnectionId) (data : List UInt8) (now now' : Int64)
  | close (client : ConnectionId)

def Server.perform (s : Server) : Op → Server
  | .message client data now now' => s.handleIncomingMessage now now' data client
  | .close client => s.forceDisconnect client

def Server.Succeeds (s : Server) (now : Int64) (data : List UInt8) (client : ConnectionId) : Prop :=
  ∃ m s' sends, Message.parse data = .ok (some m) ∧ s.handle now client m = .ok (s', sends)

/-- The server, and two things that it does not keep itself: when a message of
each connection was last handled with success, and the latest reading of the
clock. -/
structure Session where
  server : Server
  handledAt : ConnectionId → Option Int64
  clock : Int64

namespace Session

def initial (threshold : UInt64) (clock : Int64) : Session :=
  ⟨{ conflictingClientDisconnectThresholdMs := threshold }, fun _ => none, clock⟩

/-- One call, under a clock that never runs backwards. -/
inductive Step (x : Session) : Op → Session → Prop
  | handled {client data now now'} (succeeds : x.server.Succeeds now data client)
      (le : x.clock.toInt ≤ now.toInt) (le' : now.toInt ≤ now'.toInt) :
      Step x (.message client data now now')
        ⟨x.server.perform (.message client data now now'),
          Function.update x.handledAt client (some now'), now'⟩
  | unhandled {client data now now'} (fails : ¬ x.server.Succeeds now data client)
      (le : x.clock.toInt ≤ now.toInt) (le' : now.toInt ≤ now'.toInt) :
      Step x (.message client data now now')
        ⟨x.server.perform (.message client data now now'), x.handledAt, now'⟩
  | close {client} :
      Step x (.close client) ⟨x.server.perform (.close client), x.handledAt, x.clock⟩

end Session

section Sections

variable {w : World} {k : Nat} {client : ConnectionId}

theorem handleIncomingMessage_run (idle : w.calls k = .idle) (data : List UInt8)
    (now now' : Int64) :
    ∃ ls w', Run Step w ls w' ∧
      w'.server = w.server.handleIncomingMessage now now' data client := by
  have begun : Run Step w _ _ := .snoc .nil (.receive client data idle)
  have incoming := w.calls_goto_self k (.incoming client data)
  unfold Server.handleIncomingMessage
  split
  · rename_i bad
    exact ⟨_, _, .snoc (begun.snoc (.malformed incoming bad))
      (.disconnect (World.calls_goto_self _ _ _)), rfl⟩
  · rename_i unknown
    exact ⟨_, _, begun.snoc (.ignore incoming unknown), rfl⟩
  · rename_i m parsed
    unfold Server.handleMessage
    split
    · rename_i bad
      exact ⟨_, _, .snoc (begun.snoc (.reject now incoming parsed bad))
        (.disconnect (World.calls_goto_self _ _ _)), rfl⟩
    · rename_i s' sends handled
      have accepted := begun.snoc (.accept now incoming parsed handled)
      obtain ⟨ls, w', sent, same, call⟩ := sending_run (World.calls_goto_self _ _ _)
      refine ⟨_, _, (accepted.trans sent).snoc (.stamp now' call), ?_⟩
      simp [same]

theorem perform_run (idle : w.calls k = .idle) (op : Op) :
    ∃ ls w', Run Step w ls w' ∧ w'.server = w.server.perform op := by
  cases op with
  | message client data now now' => exact handleIncomingMessage_run idle data now now'
  | close client =>
    exact ⟨_, _, .snoc (.snoc .nil (.close client "" idle))
      (.disconnect (World.calls_goto_self _ _ _)), rfl⟩

end Sections

theorem Consistent.perform {s : Server} (h : Consistent s) (op : Op) :
    Consistent (s.perform op) := by
  obtain ⟨ls, w', run, same⟩ := perform_run (w := ⟨s, fun _ => .idle⟩) (k := 0) rfl op
  rw [← same]
  exact run_consistent h run

theorem millisecondsSince_lt {now last : Int64} (le : last.toInt ≤ now.toInt)
    (threshold : UInt64) :
    millisecondsSince now last < threshold ↔
      now.toInt - last.toInt < threshold.toNat * 1000000 := by
  have upper := now.toInt_lt
  have lower := last.le_toInt
  rw [UInt64.lt_iff_toNat_lt, millisecondsSince, UInt64.ofInt, UInt64.toNat_ofNat',
    Int.tdiv_eq_ediv_of_nonneg (by omega)]
  omega

def Server.Registered (s : Server) (name : AccountName) (client : ConnectionId) : Prop :=
  ∃ node, s.find name = some ⟨node, client⟩

section Perform

variable {s s' : Server} {now : Int64} (now' : Int64) {data : List UInt8}
  {client other : ConnectionId}
  {name : AccountName}

theorem Server.handleIncomingMessage_of_succeeds (succeeds : s.Succeeds now data client) :
    ∃ m s' sends, Message.parse data = .ok (some m) ∧ s.Accepts now client m s' sends ∧
      s.handleIncomingMessage now now' data client = s'.stamp now' client := by
  obtain ⟨m, s', sends, parsed, handled⟩ := succeeds
  refine ⟨m, s', sends, parsed, Server.handle_accepts handled, ?_⟩
  simp only [handleIncomingMessage, handleMessage, parsed, handled]

theorem Server.handleIncomingMessage_of_fails (fails : ¬ s.Succeeds now data client) :
    s.handleIncomingMessage now now' data client =
      if Message.parse data = .ok none then s else s.forceDisconnect client := by
  unfold handleIncomingMessage
  split
  · rename_i bad
    simp [bad]
  · rename_i unknown
    simp [unknown]
  · rename_i m parsed
    unfold handleMessage
    split
    · simp [parsed]
    · rename_i s' sends handled
      exact absurd ⟨m, s', sends, parsed, handled⟩ fails

theorem Server.registered_forceDisconnect (h : Consistent s) :
    (s.forceDisconnect client).Registered name other ↔
      s.Registered name other ∧ other ≠ client := by
  have after := h.forceDisconnect client
  constructor
  · intro ⟨node, found⟩
    have registered := (after.paired _ _ _).mp found
    rw [connections_forceDisconnect] at registered
    split at registered
    · cases registered
    · rename_i different
      exact ⟨⟨node, (h.paired _ _ _).mpr registered⟩, different⟩
  · intro ⟨⟨node, found⟩, different⟩
    exact ⟨node, h.find_forceDisconnect found different⟩

theorem Server.Accepts.registered {m : Message} {sends : List Send}
    (accepted : s.Accepts now client m s' sends) (before : s.Registered name other)
    (lost : ¬ s'.Registered name other) :
    ∃ selfId, m = .registerSelf selfId name ∧ (s.connections client).iterator = none ∧
      s.conflictingClientDisconnectThresholdMs ≤
        millisecondsSince now (s.connections other).lastCallTime := by
  obtain ⟨node, found⟩ := before
  cases accepted with
  | register online unregistered free =>
    refine absurd ⟨node, ?_⟩ lost
    grind
  | takeOver online unregistered taken stale =>
    rename_i selfId accountName entry
    by_cases same : name = accountName
    · subst same
      rw [taken] at found
      cases found
      exact ⟨selfId, rfl, unregistered, stale⟩
    · refine absurd ⟨node, ?_⟩ lost
      grind
  | setSelfId | addPeer | removePeer => exact absurd ⟨node, found⟩ lost
  | combatEvent => exact absurd ⟨node, found⟩ lost

theorem Server.Accepts.isolated {m : Message} {sends : List Send}
    (accepted : s.Accepts now client m s' sends) (different : other ≠ client) :
    (s'.connections other).instanceId = (s.connections other).instanceId ∧
      (s'.connections other).peers = (s.connections other).peers := by
  cases accepted <;> grind

end Perform

namespace Session

structure Inv (x : Session) : Prop where
  consistent : Consistent x.server
  seen : ∀ client, (x.server.connections client).iterator.isSome = true →
    x.handledAt client = some (x.server.connections client).lastCallTime
  past : ∀ client, (x.server.connections client).iterator.isSome = true →
    (x.server.connections client).lastCallTime.toInt ≤ x.clock.toInt

theorem initial_inv (threshold : UInt64) (clock : Int64) : (initial threshold clock).Inv :=
  ⟨.fresh threshold, by simp [initial], by simp [initial]⟩

theorem inv_step {x y : Session} {op : Op} (h : x.Inv) (step : Step x op y) : y.Inv := by
  obtain ⟨consistent, seen, past⟩ := h
  cases step with
  | @handled client data now now' succeeds le le' =>
    obtain ⟨m, s', sends, -, accepted, same⟩ :=
      Server.handleIncomingMessage_of_succeeds now' succeeds
    have times (other : ConnectionId) :
        (s'.connections other).lastCallTime = (x.server.connections other).lastCallTime := by
      cases accepted <;> grind
    have registered (other : ConnectionId) :
        (s'.connections other).iterator.isSome = true →
          (x.server.connections other).iterator.isSome = true ∨ other = client :=
      accepted.iterator
    simp only [Server.perform, same]
    constructor
    · exact same ▸ consistent.perform (.message client data now now')
    · intro other
      simp only [Server.connections_stamp, Function.update_apply]
      grind
    · intro other
      simp only [Server.connections_stamp]
      grind
  | @unhandled client data now now' fails le le' =>
    simp only [Server.perform, Server.handleIncomingMessage_of_fails now' fails]
    split
    · exact ⟨consistent, seen, fun other registered => by grind⟩
    · exact ⟨consistent.forceDisconnect client, by grind, by grind⟩
  | @close client =>
    simp only [Server.perform]
    exact ⟨consistent.forceDisconnect client, by grind, by grind⟩

theorem run_inv {threshold : UInt64} {clock : Int64} {ops : List Op} {x : Session}
    (run : Run Step (initial threshold clock) ops x) : x.Inv :=
  run.invariant (P := Inv) (fun _ => True) (fun h _ step => inv_step h step)
    (initial_inv threshold clock) (by simp)

section Step

variable {x y : Session} {op : Op} (h : x.Inv) (step : Step x op y)

include h step

theorem Inv.registration_lost {client : ConnectionId} {name : AccountName}
    (before : x.server.Registered name client) (lost : ¬ y.server.Registered name client) :
    op = .close client ∨
    (∃ data now now', op = .message client data now now' ∧
      ¬ x.server.Succeeds now data client) ∨
    ∃ other data now now' selfId t, op = .message other data now now' ∧ other ≠ client ∧
      Message.parse data = .ok (some (.registerSelf selfId name)) ∧
      x.handledAt client = some t ∧
      x.server.conflictingClientDisconnectThresholdMs.toNat * 1000000 ≤ now.toInt - t.toInt := by
  obtain ⟨node, found⟩ := before
  have iterator := (h.consistent.paired _ _ _).mp found
  cases step with
  | @handled other data now now' succeeds le le' =>
    obtain ⟨m, s', sends, parsed, accepted, same⟩ :=
      Server.handleIncomingMessage_of_succeeds now' succeeds
    simp only [Server.perform, same] at lost
    obtain ⟨selfId, rfl, unregistered, stale⟩ := accepted.registered ⟨node, found⟩ lost
    have isSome : (x.server.connections client).iterator.isSome = true := by rw [iterator]; rfl
    refine .inr (.inr ⟨other, data, now, now', selfId, _, rfl, ?_, parsed, h.seen _ isSome, ?_⟩)
    · intro same
      rw [same, iterator] at unregistered
      cases unregistered
    · have past := h.past _ isSome
      rw [← UInt64.not_lt, millisecondsSince_lt (by omega)] at stale
      omega
  | @unhandled other data now now' fails le le' =>
    simp only [Server.perform, Server.handleIncomingMessage_of_fails now' fails] at lost
    split at lost
    · exact absurd ⟨node, found⟩ lost
    · rw [Server.registered_forceDisconnect h.consistent, not_and_not_right] at lost
      cases lost ⟨node, found⟩
      exact .inr (.inl ⟨data, now, now', rfl, fails⟩)
  | @close other =>
    simp only [Server.perform, Server.registered_forceDisconnect h.consistent,
      not_and_not_right] at lost
    cases lost ⟨node, found⟩
    exact .inl rfl

theorem Inv.early_newcomer {newcomer owner : ConnectionId} {data : List UInt8} {now now' t : Int64}
    {selfId : UInt16} {name : AccountName} (message : op = .message newcomer data now now')
    (parsed : Message.parse data = .ok (some (.registerSelf selfId name)))
    (taken : x.server.Registered name owner) (handled : x.handledAt owner = some t)
    (early : now.toInt - t.toInt <
      x.server.conflictingClientDisconnectThresholdMs.toNat * 1000000) :
    y.server = x.server.forceDisconnect newcomer := by
  -- A newcomer that comes too early is all that suffers.
  obtain ⟨node, found⟩ := taken
  have isSome : (x.server.connections owner).iterator.isSome = true := by
    rw [(h.consistent.paired _ _ _).mp found]
    rfl
  rw [h.seen owner isSome] at handled
  cases handled
  have past := h.past owner isSome
  cases step with
  | handled succeeds le le' =>
    cases message
    obtain ⟨m, s', sends, parsed', accepted, -⟩ :=
      Server.handleIncomingMessage_of_succeeds now' succeeds
    rw [parsed] at parsed'
    cases parsed'
    cases accepted with
    | register online unregistered free =>
      rw [free] at found
      cases found
    | takeOver online unregistered taken stale =>
      rw [taken] at found
      cases found
      rw [← UInt64.not_lt, millisecondsSince_lt (Int.le_trans past le)] at stale
      exact absurd early stale
  | unhandled fails le le' =>
    cases message
    simp [Server.perform, Server.handleIncomingMessage_of_fails now' fails, parsed]
  | close => cases message

end Step

theorem isolated {x y : Session} {op : Op} (step : Step x op y) {client : ConnectionId}
    {data : List UInt8} {now now' : Int64}
    (message : op = .message client data now now') {other : ConnectionId}
    (different : other ≠ client) :
    (y.server.connections other).instanceId = (x.server.connections other).instanceId ∧
      (y.server.connections other).peers = (x.server.connections other).peers := by
  cases step with
  | handled succeeds le le' =>
    cases message
    obtain ⟨m, s', sends, -, accepted, same⟩ :=
      Server.handleIncomingMessage_of_succeeds now' succeeds
    have kept := accepted.isolated different
    simp only [Server.perform, same]
    grind
  | unhandled fails le le' =>
    cases message
    simp only [Server.perform, Server.handleIncomingMessage_of_fails now' fails]
    grind
  | close => cases message

end Session

/-- Takeover and isolation, at any point of any run. -/
theorem takeover_isolation {threshold : UInt64} {clock : Int64} {ops : List Op}
    {x y : Session} {op : Op} (run : Run Session.Step (.initial threshold clock) ops x)
    (step : Session.Step x op y) :
    (∀ client name, x.server.Registered name client → ¬ y.server.Registered name client →
      op = .close client ∨
      (∃ data now now', op = .message client data now now' ∧
        ¬ x.server.Succeeds now data client) ∨
      ∃ other data now now' selfId t, op = .message other data now now' ∧ other ≠ client ∧
        Message.parse data = .ok (some (.registerSelf selfId name)) ∧
        x.handledAt client = some t ∧
        x.server.conflictingClientDisconnectThresholdMs.toNat * 1000000 ≤
          now.toInt - t.toInt) ∧
    (∀ newcomer owner data now now' selfId name t, op = .message newcomer data now now' →
      Message.parse data = .ok (some (.registerSelf selfId name)) →
      x.server.Registered name owner → newcomer ≠ owner → x.handledAt owner = some t →
      now.toInt - t.toInt < x.server.conflictingClientDisconnectThresholdMs.toNat * 1000000 →
        ((x.server.connections newcomer).iterator = none →
          y.server.registeredAgents = x.server.registeredAgents) ∧
        (∀ account client, y.server.Registered account client ↔
          x.server.Registered account client ∧ client ≠ newcomer) ∧
        (y.server.connections newcomer).forceDisconnected = true ∧
        ∀ client, client ≠ newcomer → y.server.connections client = x.server.connections client) ∧
    (∀ client data now now', op = .message client data now now' → ∀ other, other ≠ client →
      (y.server.connections other).instanceId = (x.server.connections other).instanceId ∧
        (y.server.connections other).peers = (x.server.connections other).peers) := by
  have h := Session.run_inv run
  refine ⟨?_, ?_, ?_⟩
  · exact fun client name before lost => h.registration_lost step before lost
  · intro newcomer owner data now now' selfId name t message parsed taken _ handled early
    rw [h.early_newcomer step message parsed taken handled early]
    refine ⟨fun unregistered => ?_, fun account client => ?_, ?_, fun client different => ?_⟩
    · simp [Server.forceDisconnect, unregistered]
    · exact Server.registered_forceDisconnect h.consistent
    · simp [Server.connections_forceDisconnect]
    · simp [Server.connections_forceDisconnect, different]
  · exact fun client data now now' message other different =>
      Session.isolated step message different

section Witness

def registerOp : Op := .message 0 (Message.registerSelf 5 [97]).encode 0 0

def collideOp : Op := .message 1 (Message.registerSelf 6 [97]).encode 1000 1000

def opened : Session :=
  ⟨(Session.initial 30000 0).server.perform registerOp, Function.update (fun _ => none) 0 (some 0),
    0⟩

def collided : Session := ⟨opened.server.perform collideOp, opened.handledAt, 1000⟩

theorem parse_registerSelf (id : UInt16) :
    Message.parse (Message.registerSelf id [97]).encode = .ok (some (.registerSelf id [97])) :=
  Message.parse_encode _ (show [97].length < 256 by decide)

theorem opened_handle : (Session.initial 30000 0).server.handle 0 0 (.registerSelf 5 [97]) =
    .ok (((Session.initial 30000 0).server.emplace [97] 0).register 0 ⟨[97], 0⟩ 5, []) :=
  (Server.Accepts.register rfl rfl (by simp [Session.initial, Server.find])).handle

theorem opened_server : opened.server =
    (((Session.initial 30000 0).server.emplace [97] 0).register 0 ⟨[97], 0⟩ 5).stamp 0 0 := by
  simp only [opened, registerOp, Server.perform, Server.handleIncomingMessage,
    Server.handleMessage, parse_registerSelf, opened_handle]

theorem opened_run : Run Session.Step (.initial 30000 0) [registerOp] opened :=
  .snoc .nil (.handled ⟨_, _, _, parse_registerSelf 5, opened_handle⟩ (by decide) (by decide))

theorem find_opened (name : AccountName) :
    opened.server.find name = if name = [97] then some ⟨0, 0⟩ else none := by
  have fresh : (Session.initial 30000 0).server.find name = none := by
    simp [Session.initial, Server.find]
  simp only [opened_server, Server.find_stamp, Server.find_register, Server.find_emplace, fresh]
  rfl

theorem collided_step : Session.Step opened collideOp collided := by
  refine .unhandled ?_ (by decide) (by decide)
  intro ⟨m, s', sends, parsed, handled⟩
  rw [parse_registerSelf] at parsed
  cases parsed
  have taken : opened.server.find [97] = some ⟨0, 0⟩ := find_opened [97]
  cases Server.handle_accepts handled with
  | register online unregistered free =>
    rw [free] at taken
    cases taken
  | takeOver online unregistered taken' stale =>
    rw [taken] at taken'
    cases taken'
    rw [opened_server] at stale
    revert stale
    decide

theorem takeover_isolation_collided :
    (∀ client name, opened.server.Registered name client →
      ¬ collided.server.Registered name client →
      collideOp = .close client ∨
      (∃ data now now', collideOp = .message client data now now' ∧
        ¬ opened.server.Succeeds now data client) ∨
      ∃ other data now now' selfId t, collideOp = .message other data now now' ∧
        other ≠ client ∧
        Message.parse data = .ok (some (.registerSelf selfId name)) ∧
        opened.handledAt client = some t ∧
        opened.server.conflictingClientDisconnectThresholdMs.toNat * 1000000 ≤
          now.toInt - t.toInt) ∧
    (∀ newcomer owner data now now' selfId name t,
      collideOp = .message newcomer data now now' →
      Message.parse data = .ok (some (.registerSelf selfId name)) →
      opened.server.Registered name owner → newcomer ≠ owner → opened.handledAt owner = some t →
      now.toInt - t.toInt <
          opened.server.conflictingClientDisconnectThresholdMs.toNat * 1000000 →
        ((opened.server.connections newcomer).iterator = none →
          collided.server.registeredAgents = opened.server.registeredAgents) ∧
        (∀ account client, collided.server.Registered account client ↔
          opened.server.Registered account client ∧ client ≠ newcomer) ∧
        (collided.server.connections newcomer).forceDisconnected = true ∧
        ∀ client, client ≠ newcomer →
          collided.server.connections client = opened.server.connections client) ∧
    (∀ client data now now', collideOp = .message client data now now' →
      ∀ other, other ≠ client →
      (collided.server.connections other).instanceId =
          (opened.server.connections other).instanceId ∧
        (collided.server.connections other).peers = (opened.server.connections other).peers) :=
  takeover_isolation opened_run collided_step

def joinOp : Op := .message 1 (Message.registerSelf 6 [98]).encode 500 500

def joined : Session :=
  ⟨opened.server.perform joinOp, Function.update opened.handledAt 1 (some 500), 500⟩

def refused : Session := ⟨joined.server.perform collideOp, joined.handledAt, 1000⟩

theorem nextNode_opened : opened.server.nextNode = 1 := by
  rw [opened_server]
  rfl

theorem joined_handle : opened.server.handle 500 1 (.registerSelf 6 [98]) =
    .ok ((opened.server.emplace [98] 1).register 1 ⟨[98], 1⟩ 6, []) := by
  rw [← nextNode_opened]
  exact (Server.Accepts.register (by rw [opened_server]; rfl) (by rw [opened_server]; rfl)
    (find_opened [98])).handle

theorem joined_server : joined.server =
    ((opened.server.emplace [98] 1).register 1 ⟨[98], 1⟩ 6).stamp 500 1 := by
  have parsed : Message.parse (Message.registerSelf 6 [98]).encode =
      .ok (some (.registerSelf 6 [98])) :=
    Message.parse_encode _ (show [98].length < 256 by decide)
  simp only [joined, joinOp, Server.perform, Server.handleIncomingMessage,
    Server.handleMessage, parsed, joined_handle]

theorem joined_run : Run Session.Step (.initial 30000 0) [registerOp, joinOp] joined :=
  .snoc opened_run (.handled
    ⟨_, _, _, Message.parse_encode _ (show [98].length < 256 by decide), joined_handle⟩
    (by decide) (by decide))

theorem joined_registered : joined.server.Registered [97] 0 ∧ joined.server.Registered [98] 1 := by
  rw [joined_server]
  exact ⟨⟨0, by simp [Server.find_emplace, find_opened]⟩,
    ⟨1, by simp [Server.find_emplace, nextNode_opened]⟩⟩

theorem refused_step : Session.Step joined collideOp refused := by
  refine .unhandled ?_ (by decide) (by decide)
  intro ⟨m, s', sends, parsed, handled⟩
  rw [parse_registerSelf] at parsed
  cases parsed
  have registered : (joined.server.connections 1).iterator = some ⟨[98], 1⟩ := by
    simp [joined_server, Server.connections_stamp, Server.connections_register]
  cases Server.handle_accepts handled with
  | register online unregistered => rw [registered] at unregistered; cases unregistered
  | takeOver online unregistered => rw [registered] at unregistered; cases unregistered

/-- A colliding newcomer that is registered under another name takes its own
entry out of the table. -/
theorem collision_erases_newcomer :
    ¬ ∀ (threshold : UInt64) (clock : Int64) (ops : List Op) (x y : Session) (op : Op),
      Run Session.Step (.initial threshold clock) ops x → Session.Step x op y →
      ∀ newcomer owner data now now' selfId name t, op = .message newcomer data now now' →
        Message.parse data = .ok (some (.registerSelf selfId name)) →
        x.server.Registered name owner → newcomer ≠ owner → x.handledAt owner = some t →
        now.toInt - t.toInt < x.server.conflictingClientDisconnectThresholdMs.toNat * 1000000 →
          y.server.registeredAgents = x.server.registeredAgents := by
  intro all
  have h := Session.run_inv joined_run
  have handled : joined.handledAt 0 = some 0 := rfl
  have early : (1000 : Int64).toInt - (0 : Int64).toInt <
      joined.server.conflictingClientDisconnectThresholdMs.toNat * 1000000 := by
    rw [joined_server, opened_server]
    decide
  have same := all _ _ _ _ _ _ joined_run refused_step 1 0 _ 1000 1000 6 [97] 0 rfl
    (parse_registerSelf 6) joined_registered.1 (by decide) handled early
  have left := h.early_newcomer refused_step rfl (parse_registerSelf 6) joined_registered.1
    handled early
  have kept : refused.server.Registered [98] 1 := by
    obtain ⟨node, found⟩ := joined_registered.2
    exact ⟨node, by simpa only [Server.find, same] using found⟩
  rw [left, Server.registered_forceDisconnect h.consistent] at kept
  exact kept.2 rfl

end Witness

end ArcdpsHealing.Networking
