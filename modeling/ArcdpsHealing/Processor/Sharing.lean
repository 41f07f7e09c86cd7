import ArcdpsHealing.Networking.Lossless
import ArcdpsHealing.Processor.Delivery

/-! The statistics of a player on the screen of another one. -/

namespace ArcdpsHealing.Processor

open Arcdps Networking Lib

/-- The two processors with the player's client and the network. `sent` are the
player's events so far. -/
structure Sharing where
  system : System
  client : Client
  sender : EventProcessor
  receiver : EventProcessor
  sent : List Sent := []

namespace Sharing

variable (c : Enums) (a b : ConnectionId) (i : UInt16) (u : UInt64) (s : Sharing)

/-- A callback that the processor and then the client are given. -/
def call (x : Callback) : Sharing :=
  let e := forwarded c s.sender x
  { s with
    sender := Sent.after c ⟨s.sender, x⟩
    client := s.client.processLocalEvent c e
    sent := s.sent ++ if sendsEvent c s.client.mBudgetMode e then [⟨s.sender, x⟩] else [] }

/-- What a step of the client puts on a stream. -/
def follow (n : System) : Client.Label → System
  | .internal => n
  | .completed _ _ => n
  | .opened _ => n
  | .sent context _ m => n.write context m.encode

/-- `ProcessPeerEvent` for the bytes that the other client gets. -/
def hear (r : EventProcessor) (e : CombatEvent) : EventProcessor :=
  match Client.parse e.blob with
  | .ok (some (event, senderInstanceId)) => r.peerCombat c event senderInstanceId
  | .ok none => r
  | .error _ => r

inductive Op
  | callback (x : Callback)
  | client (l : Client.Label)
  | network (op : System.Op)
  | deliver
  | sender (x : HandlerCall)
  | receiver (x : HandlerCall)

/-- The player's client and the server run as they do, and all other clients do as
they like. Events are queued by callbacks alone, and the budget mode is not changed. -/
inductive Step (s : Sharing) : Op → Sharing → Prop
  | callback {x} : Step s (.callback x) (s.call c x)
  | client {l y} (step : Client.Step c s.client l y)
      (fewer : y.mQueuedEvents.length ≤ s.client.mQueuedEvents.length)
      (budgetMode : y.mBudgetMode = s.client.mBudgetMode) :
      Step s (.client l) { s with client := y, system := follow s.system l }
  | network {op t} (step : System.Step s.system op t) (other : op ≠ .deliver b)
      (foreign : ∀ data, op ≠ .write a data) : Step s (.network op) { s with system := t }
  | deliver {e} (next : (s.system.frontend.view b).written[s.system.delivered b]? = some e) :
      Step s .deliver { s with system := s.system.deliver b e, receiver := hear c s.receiver e }
  | sender {x} : Step s (.sender x) { s with sender := s.sender.handle c x }
  | receiver {x} : Step s (.receiver x) { s with receiver := s.receiver.handle c x }

def arrived : Nat := (s.system.received b).countP (·.2 = i)

/-- The two sides and the server know what a step is about, and the connection stays:
nothing is dropped, and the events are written on it. The other calls of the handlers
are no part of the player's combat and leave the registrations alone. -/
def Knows (s : Sharing) : Op → Prop
  | .callback x => Owned i x ∧ (sendsEvent c s.client.mBudgetMode (forwarded c s.sender x) →
      s.client.mQueuedEvents.length ≤ 5000)
  | .client l => ∀ context id e, l = .sent context id (.combatEvent e) → context = a
  | .network op => System.Passes a b i s.system op
  | .deliver => (∀ j, s.receiver.agentTable.getUniqueId j false = some u → j = i) ∧
      ∀ x, s.sent[s.arrived b i]? = some x →
        s.receiver.agentTable.getUniqueId x.callback.event.dstInstid true =
          some x.callback.destination.id
  | .sender x => Idle s.sender x ∧
      (s.sender.handle c x).selfInstanceId = s.sender.selfInstanceId
  | .receiver x => Foreign s.receiver u x ∧
      (s.receiver.handle c x).agentTable.getUniqueId i false = some u

def link : Link :=
  { sender := s.sender, receiver := s.receiver, inFlight := s.sent.drop (s.arrived b i) }

/-- The sender when the oldest event that has not arrived came up. -/
def past : EventProcessor :=
  match s.sent[s.arrived b i]? with
  | none => s.sender
  | some x => x.sender

variable {c a b i u} {budgetMode : Bool} {s t : Sharing} {op : Op} {ops : List Op}
  {threshold : UInt64}

theorem hear_eq (r : EventProcessor) (e : CombatEvent) :
    hear c r e = r.peerCombat c e.event e.senderInstanceId := by
  unfold hear
  rw [Client.parse_blob]

section Network

variable {n m : System} {op' : System.Op}

theorem received_step (step : System.Step n op' m) (other : op' ≠ .deliver b) :
    m.received b = n.received b := by
  cases step with
  | write => rfl
  | read => rfl
  | serve => rfl
  | @deliver client e next =>
    have ne : b ≠ client := fun same => other (by rw [same])
    unfold System.deliver
    rw [Client.parse_blob]
    exact Function.update_of_ne ne _ _

theorem sent_step (step : System.Step n op' m) (foreign : ∀ data, op' ≠ .write a data) :
    m.sent a = n.sent a := by
  cases step with
  | @write client data =>
    have ne : a ≠ client := fun same => foreign data (by rw [same])
    exact Function.update_of_ne ne _ _
  | read => rfl
  | serve => rfl
  | deliver => rfl

theorem received_deliver (n : System) (client : ConnectionId) (e : CombatEvent) :
    (n.deliver client e).received client = n.received client ++ [System.heard e] := by
  unfold System.deliver
  rw [Client.parse_blob]
  exact Function.update_self _ _ _

end Network

section Positions

variable {α : Type} {p : α → Bool} {xs : List α} {k : Nat} {x : α}

theorem getElem?_filter_of_getElem? (at' : xs[k]? = some x) (holds : p x = true) :
    (xs.filter p)[(xs.take k).countP p]? = some x := by
  obtain ⟨bound, rfl⟩ := List.getElem?_eq_some_iff.mp at'
  have split : xs = xs.take k ++ xs[k] :: xs.drop (k + 1) := by
    rw [← List.drop_eq_getElem_cons bound, List.take_append_drop]
  have filtered : xs.filter p = (xs.take k).filter p ++ xs[k] :: (xs.drop (k + 1)).filter p := by
    conv_lhs => rw [split]
    rw [List.filter_append, List.filter_cons_of_pos holds]
  rw [filtered, List.countP_eq_length_filter, List.getElem?_append_right (Nat.le_refl _),
    Nat.sub_self]
  rfl

end Positions

structure Explains (threshold : UInt64) (c : Enums) (budgetMode : Bool) (a b : ConnectionId)
    (i : UInt16) (u : UInt64) (s : Sharing)
    (routes : ConnectionId → List (ConnectionId × CombatEvent)) : Prop where
  reached : ∃ served, Run Frontend.Step (.initial threshold) served s.system.frontend
  relays : System.Relays s.system routes
  lossless : System.Lossless a b i s.system routes
  mode : s.client.mBudgetMode = budgetMode
  sent : (s.system.sent a).filterMap meant ++ s.client.unsent = s.sent.map (Sent.event c)
  follows : (s.link b i).Follows c budgetMode i u

namespace Explains

variable {routes : ConnectionId → List (ConnectionId × CombatEvent)}

theorem consistent (explains : Explains threshold c budgetMode a b i u s routes) :
    Networking.Consistent s.system.frontend.server := by
  obtain ⟨served, run⟩ := explains.reached
  exact (Frontend.run_inv run).consistent

theorem network {op' : System.Op} {m : System}
    (explains : Explains threshold c budgetMode a b i u s routes)
    (passes : System.Passes a b i s.system op') (step : System.Step s.system op' m)
    (other : op' ≠ .deliver b) (foreign : ∀ data, op' ≠ .write a data) :
    ∃ routes', Explains threshold c budgetMode a b i u { s with system := m } routes' := by
  obtain ⟨served, run⟩ := explains.reached
  obtain ⟨reached, routes', relays, extends'⟩ := explains.relays.step run step
  have lossless := explains.lossless.step explains.consistent extends' step passes
  have arrived : ({ s with system := m } : Sharing).arrived b i = s.arrived b i := by
    unfold Sharing.arrived
    rw [received_step step other]
  have sent : m.sent a = s.system.sent a := sent_step step foreign
  refine ⟨routes', reached, relays, lossless, explains.mode, ?_, ?_⟩
  · rw [sent]
    exact explains.sent
  unfold Sharing.link
  rw [arrived]
  exact explains.follows

theorem received (explains : Explains threshold c budgetMode a b i u s routes) :
    s.system.received b =
      ((routes b).take (s.system.delivered b)).map fun r => System.heard r.2 := by
  have order := explains.relays.carries.order b
  have before : s.system.received b <+: ((routes b).map (·.2)).map System.heard := by
    rw [order, List.map_append]
    exact (explains.relays.received b).trans (List.prefix_append _ _)
  rw [List.prefix_iff_eq_take.mp before, explains.relays.count b, List.map_map, List.map_take]
  rfl

theorem sender_iff (explains : Explains threshold c budgetMode a b i u s routes)
    {r : ConnectionId × CombatEvent} (mem : r ∈ routes b) :
    r.2.senderInstanceId = i ↔ r.1 = a := by
  refine ⟨fun id => ?_, fun own => ?_⟩
  · by_contra foreign
    exact explains.lossless.others r mem foreign id
  · obtain ⟨done, -, all⟩ := explains.lossless.own
    have here : r ∈ (routes b).filter (·.1 = a) :=
      List.mem_filter.mpr ⟨mem, decide_eq_true own⟩
    rw [all] at here
    obtain ⟨e, -, rfl⟩ := List.mem_map.mp here
    rfl

theorem arrived (explains : Explains threshold c budgetMode a b i u s routes) :
    s.arrived b i = ((routes b).take (s.system.delivered b)).countP (·.1 = a) := by
  unfold Sharing.arrived
  rw [explains.received, List.countP_map]
  refine List.countP_congr fun r mem => ?_
  exact (decide_eq_true_iff.trans (explains.sender_iff (List.mem_of_mem_take mem))).trans
    decide_eq_true_iff.symm

theorem passed (explains : Explains threshold c budgetMode a b i u s routes) :
    ((routes b).filter (·.1 = a)).map (·.2.event) <+: s.sent.map (Sent.event c) := by
  obtain ⟨done, all, own⟩ := explains.lossless.own
  have events : ((routes b).filter (·.1 = a)).map (·.2.event) = done.filterMap meant := by
    rw [own, List.map_map]
    exact List.map_id _
  rw [← explains.sent, all, events, List.filterMap_append, List.append_assoc]
  exact List.prefix_append _ _

theorem arrived_le (explains : Explains threshold c budgetMode a b i u s routes) :
    s.arrived b i ≤ s.sent.length := by
  have few := ((routes b).take_sublist (s.system.delivered b)).countP_le (p := (·.1 = a))
  have all := explains.passed.length_le
  rw [List.length_map, List.length_map, ← List.countP_eq_length_filter] at all
  rw [explains.arrived]
  exact few.trans all

theorem callback {x : Callback} (explains : Explains threshold c budgetMode a b i u s routes)
    (owned : Owned i x) (room : sendsEvent c s.client.mBudgetMode (forwarded c s.sender x) →
      s.client.mQueuedEvents.length ≤ 5000) :
    Explains threshold c budgetMode a b i u (s.call c x) routes := by
  have step : Link.Step c budgetMode i u (s.link b i) (.callback x false)
      ((s.link b i).call c budgetMode x false) := .callback
  have next := explains.follows.step step owned
  have catches : Link.Catches c budgetMode i (Sent.after c ⟨s.sender, x⟩)
      (s.sent.drop (s.arrived b i) ++
        if sendsEvent c budgetMode (forwarded c s.sender x) then [⟨s.sender, x⟩] else [])
      (s.receiver.peerState u) := next.catches
  have enough := explains.arrived_le
  unfold Sharing.call
  dsimp only
  rw [← explains.mode] at catches
  by_cases sends : sendsEvent c s.client.mBudgetMode (forwarded c s.sender x)
  · rw [if_pos sends] at catches
    rw [if_pos sends, Client.processLocalEvent_of_sends sends (room sends)]
    refine ⟨explains.reached, explains.relays, explains.lossless, explains.mode, ?_,
      next.registered, ?_⟩
    · rw [List.map_append, ← explains.sent, List.append_assoc, Client.unsent, Client.unsent,
        List.append_assoc]
      rfl
    · change Link.Catches c budgetMode i _ ((s.sent ++ [(⟨s.sender, x⟩ : Sent)]).drop
        (s.arrived b i)) _
      rw [List.drop_append_of_le_length enough, ← explains.mode]
      exact catches
  · rw [if_neg sends, List.append_nil] at catches
    rw [if_neg sends, Client.processLocalEvent_of_not_sends sends, List.append_nil]
    refine ⟨explains.reached, explains.relays, explains.lossless, explains.mode, explains.sent,
      next.registered, ?_⟩
    rw [← explains.mode]
    exact catches

theorem client {l : Client.Label} {y : Client}
    (explains : Explains threshold c budgetMode a b i u s routes)
    (step : Client.Step c s.client l y)
    (fewer : y.mQueuedEvents.length ≤ s.client.mQueuedEvents.length)
    (mode : y.mBudgetMode = s.client.mBudgetMode)
    (own : ∀ context id e, l = .sent context id (.combatEvent e) → context = a) :
    Explains threshold c budgetMode a b i u
      { s with client := y, system := follow s.system l } routes := by
  have queued := Client.unsent_step step fewer
  have sent : ((follow s.system l).sent a).filterMap meant =
      (s.system.sent a).filterMap meant ++ l.event.toList := by
    cases l with
    | internal | completed | opened => exact (List.append_nil _).symm
    | sent context id m =>
      have told := meant_encode (Client.short_of_sent step)
      by_cases same : a = context
      · subst same
        have longer : (follow s.system (.sent a id m)).sent a = s.system.sent a ++ [m.encode] :=
          Function.update_self _ _ _
        rw [longer, List.filterMap_append, List.filterMap_cons, told]
        cases m <;> rfl
      · have as : (follow s.system (.sent context id m)).sent a = s.system.sent a :=
          Function.update_of_ne same _ _
        have silent : m.event = none := by
          cases m with
          | registerSelf | setSelfId | addPeer | removePeer => rfl
          | combatEvent e => exact absurd (own _ _ _ rfl).symm same
        rw [as, Client.Label.event, silent]
        exact (List.append_nil _).symm
  have all : ((follow s.system l).sent a).filterMap meant ++ y.unsent =
      s.sent.map (Sent.event c) := by
    rw [sent, List.append_assoc, queued]
    exact explains.sent
  cases l with
  | internal | completed | opened =>
    exact { explains with mode := mode.trans explains.mode, sent := all }
  | sent context id m =>
    exact ⟨explains.reached, explains.relays.write _ _,
      explains.lossless.write explains.consistent _ _, mode.trans explains.mode, all,
      explains.follows⟩

theorem route (explains : Explains threshold c budgetMode a b i u s routes) {e : CombatEvent}
    (next : (s.system.frontend.view b).written[s.system.delivered b]? = some e) :
    ∃ client, (routes b)[s.system.delivered b]? = some (client, e) := by
  have order := explains.relays.carries.order b
  have here : ((routes b).map (·.2))[s.system.delivered b]? = some e := by
    rw [order, List.getElem?_append_left (List.getElem?_eq_some_iff.mp next).1]
    exact next
  rw [List.getElem?_map, Option.map_eq_some_iff] at here
  obtain ⟨⟨client, e⟩, at', rfl⟩ := here
  exact ⟨client, at'⟩

theorem next_own (explains : Explains threshold c budgetMode a b i u s routes) {e : CombatEvent}
    (at' : (routes b)[s.system.delivered b]? = some (a, e)) :
    ∃ x, s.sent[s.arrived b i]? = some x ∧ x.event c = e.event := by
  have passed : (((routes b).filter (·.1 = a)).map (·.2.event))[s.arrived b i]? = some e.event := by
    have holds : decide ((a, e).1 = a) = true := decide_eq_true rfl
    rw [explains.arrived, List.getElem?_map, getElem?_filter_of_getElem? at' holds]
    rfl
  obtain ⟨later, all⟩ := explains.passed
  have sent : (s.sent.map (Sent.event c))[s.arrived b i]? = some e.event := by
    rw [← all, List.getElem?_append_left (List.getElem?_eq_some_iff.mp passed).1]
    exact passed
  rw [List.getElem?_map, Option.map_eq_some_iff] at sent
  exact sent

theorem deliver {e : CombatEvent} (explains : Explains threshold c budgetMode a b i u s routes)
    (next : (s.system.frontend.view b).written[s.system.delivered b]? = some e)
    (knows : s.Knows c a b i u .deliver) :
    Explains threshold c budgetMode a b i u
      { s with system := s.system.deliver b e, receiver := hear c s.receiver e } routes := by
  obtain ⟨alone, known⟩ := knows
  obtain ⟨client, at'⟩ := explains.route next
  have mem : (client, e) ∈ routes b := List.mem_of_getElem? at'
  have lossless : System.Lossless a b i (s.system.deliver b e) routes :=
    explains.lossless.step explains.consistent (.same (by rintro _ ⟨⟩))
      (System.Step.deliver next) ⟨by rintro _ _ _ ⟨⟩, by rintro _ _ _ _ ⟨⟩⟩
  have arrived : Sharing.arrived b i
      { s with system := s.system.deliver b e, receiver := hear c s.receiver e } =
      s.arrived b i + if e.senderInstanceId = i then 1 else 0 := by
    unfold Sharing.arrived
    rw [received_deliver, List.countP_append, List.countP_singleton]
    congr 1
    exact if_congr decide_eq_true_iff rfl rfl
  suffices follows : (Sharing.link b i
      { s with system := s.system.deliver b e, receiver := hear c s.receiver e }).Follows
        c budgetMode i u from
    ⟨explains.reached, explains.relays.deliver next, lossless, explains.mode, explains.sent,
      follows⟩
  unfold Sharing.link
  rw [arrived, hear_eq]
  by_cases own : client = a
  · subst own
    have id : e.senderInstanceId = i := (explains.sender_iff mem).mpr rfl
    obtain ⟨x, at', same⟩ := explains.next_own at'
    obtain ⟨bound, here⟩ := List.getElem?_eq_some_iff.mp at'
    have inFlight : (s.link b i).inFlight = x :: s.sent.drop (s.arrived b i + 1) := by
      rw [← here]
      exact List.drop_eq_getElem_cons bound
    have step : Link.Step c budgetMode i u (s.link b i) (.deliver false)
        ((s.link b i).receive c i (x.event c) (s.sent.drop (s.arrived b i + 1)) false) :=
      .deliver inFlight
    have knows : (s.link b i).Knows c i u (.deliver false) := by
      intro y first
      rw [inFlight] at first
      cases first
      exact known x at'
    have after := explains.follows.step step knows
    rw [if_pos id, id, ← same]
    exact ⟨after.registered, after.catches⟩
  · have id : e.senderInstanceId ≠ i := mt (explains.sender_iff mem).mp own
    let x : HandlerCall := .peerCombat e.event e.senderInstanceId
    have foreign : Foreign s.receiver u x := fun same => id (alone _ same)
    have step : Link.Step c budgetMode i u (s.link b i) (.receiver (s.receiver.handle c x))
        { s.link b i with receiver := s.receiver.handle c x } := by
      refine .receiver ?_
      change (s.receiver.peerCombat c e.event e.senderInstanceId).agentTable.getUniqueId _ _ = _
      rw [EventProcessor.agentTable_peerCombat]
      exact explains.follows.registered.2
    rw [if_neg id, Nat.add_zero]
    exact explains.follows.step step ⟨x, foreign, rfl⟩

theorem step (explains : Explains threshold c budgetMode a b i u s routes)
    (knows : s.Knows c a b i u op) (step : Step c a b s op t) :
    ∃ routes', Explains threshold c budgetMode a b i u t routes' := by
  cases step with
  | callback => exact ⟨_, explains.callback knows.1 knows.2⟩
  | client step fewer mode => exact ⟨_, explains.client step fewer mode knows⟩
  | network step other foreign => exact explains.network knows step other foreign
  | deliver next => exact ⟨_, explains.deliver next knows⟩
  | @sender x =>
    obtain ⟨idle, selfInstanceId⟩ := knows
    have step : Link.Step c budgetMode i u (s.link b i) (.sender (s.sender.handle c x))
        { s.link b i with sender := s.sender.handle c x } := .sender selfInstanceId
    have after := explains.follows.step step ⟨x, idle, rfl⟩
    exact ⟨routes, { explains with follows := after }⟩
  | @receiver x =>
    obtain ⟨foreign, player⟩ := knows
    have step : Link.Step c budgetMode i u (s.link b i) (.receiver (s.receiver.handle c x))
        { s.link b i with receiver := s.receiver.handle c x } := .receiver player
    have after := explains.follows.step step ⟨x, foreign, rfl⟩
    exact ⟨routes, { explains with follows := after }⟩

end Explains

section Witness

structure Writes (a : ConnectionId) (x : Client) (l : Client.Label) (y : Client) : Prop where
  step : Client.Step .documented x l y
  fewer : y.mQueuedEvents.length ≤ x.mQueuedEvents.length
  budgetMode : y.mBudgetMode = x.mBudgetMode
  own : ∀ context id e, l = .sent context id (.combatEvent e) → context = a

theorem Writes.quiet {x y : Client} {l : Client.Label} (step : Client.Step .documented x l y)
    (queue : y.mQueuedEvents = x.mQueuedEvents) (budgetMode : y.mBudgetMode = x.mBudgetMode)
    (silent : l.event = none) : Writes a x l y := by
  refine ⟨step, queue ▸ le_rfl, budgetMode, ?_⟩
  rintro context id e rfl
  cases silent

def playerSource : Ag := ⟨none, 77, 1, 0, 0, 0⟩

def player : Ag := ⟨some [65], 5, 1, 0, 1, 0⟩

def friendSource : Ag := ⟨none, 99, 1, 0, 0, 0⟩

def friend : Ag := ⟨some [66], 6, 1, 0, 0, 0⟩

/-- `Serve` looks for something to write. -/
def looks (x : Client) : Client := (x.goto (.selfInfo 0)).checkSelf 0

def wrote (x : Client) (data : CallData) : Client :=
  (x.sendEvent 0 data).complete ⟨data.type, 0⟩ true []

def introduced : Client :=
  { mBudgetMode := true
    selfInfo := processLocalAgent {} playerSource player
    mPeers := processAreaAgent ∅ friendSource friend }

def connected : Client := ((introduced.goto .branch).connect 0).complete ⟨.connect, 0⟩ true []

def registered : Client := wrote (looks connected) (.registerSelf 5 [65])

def acquainted : Client := wrote ((looks registered).checkPeers 0 5) (.addPeer 6 [66])

def registering : List Client.Label :=
  [.internal, .internal, .internal, .opened 0, .completed ⟨.connect, 0⟩ true, .internal, .internal,
    .sent 0 5 (.registerSelf 5 [65]), .completed ⟨.registerSelf, 0⟩ true, .internal, .internal,
    .internal, .sent 0 5 (.addPeer 6 [66]), .completed ⟨.addPeer, 0⟩ true]

theorem Writes.sends {x : Client} (id : UInt16) (data : CallData) (m : Message)
    (here : x.position = .sendEvent a id data) (fits : data.fits = true)
    (told : (data.message (x.contexts a).registeredInstanceId).1 = m) :
    Writes a x (.sent a id m) (x.sendEvent a data) := by
  subst told
  refine ⟨.sendEvent here fits, le_rfl, rfl, ?_⟩
  rintro context id e same
  exact (Client.Label.sent.inj same).1.symm

theorem run_registering : Run (Writes 0) { mBudgetMode := true } registering acquainted := by
  have named : Client.ProperSelf playerSource player := fun _ _ _ => by decide
  have short : Client.ProperPeer friendSource friend := fun _ _ _ => by decide
  have r0 : Run (Writes 0) { mBudgetMode := true } [] { mBudgetMode := true } := .nil
  have r1 := r0.snoc (.quiet (.localAgent named) rfl rfl rfl)
  have r2 : Run (Writes 0) _ _ introduced := r1.snoc (.quiet (.areaAgent short) rfl rfl rfl)
  have r3 := r2.snoc (.quiet (.timeout rfl) rfl rfl rfl)
  have r4 := r3.snoc (.quiet (@Client.Step.connect _ _ 0 rfl rfl List.not_mem_nil) rfl rfl rfl)
  have r5 : Run (Writes 0) _ _ connected := r4.snoc
    (.quiet (@Client.Step.gotEvent _ _ ⟨.connect, 0⟩ true [] rfl (.head _)) rfl rfl rfl)
  have r6 := r5.snoc (.quiet (@Client.Step.send _ _ 0 rfl rfl) rfl rfl rfl)
  have r7 : Run (Writes 0) _ _ (looks connected) := r6.snoc
    (.quiet (@Client.Step.checkSelf _ _ 0 rfl) (by decide +kernel) (by decide +kernel) rfl)
  have r8 := r7.snoc (.sends 5 (.registerSelf 5 [65]) (.registerSelf 5 [65]) (by decide +kernel)
    rfl (by decide +kernel))
  have r9 : Run (Writes 0) _ _ registered := r8.snoc
    (.quiet (@Client.Step.gotEvent _ _ ⟨.registerSelf, 0⟩ true [] rfl (.head _))
      (by decide +kernel) (by decide +kernel) rfl)
  have r10 := r9.snoc
    (.quiet (@Client.Step.send _ _ 0 (by decide +kernel) (by decide +kernel)) rfl rfl rfl)
  have r11 : Run (Writes 0) _ _ (looks registered) := r10.snoc
    (.quiet (@Client.Step.checkSelf _ _ 0 rfl) (by decide +kernel) (by decide +kernel) rfl)
  have r12 := r11.snoc (.quiet (@Client.Step.checkPeers _ _ 0 5 (by decide +kernel))
    (by decide +kernel) (by decide +kernel) rfl)
  have r13 := r12.snoc
    (.sends 5 (.addPeer 6 [66]) (.addPeer 6 [66]) (by decide +kernel) rfl (by decide +kernel))
  exact r13.snoc (.quiet (@Client.Step.gotEvent _ _ ⟨.addPeer, 0⟩ true [] rfl (.head _))
    (by decide +kernel) (by decide +kernel) rfl)

structure Ready (x : Client) : Prop where
  position : x.position = .branch
  branch : x.branch = .send 0
  told : (x.contexts 0).registeredInstanceId = 5
  self : x.selfInfo.instanceId = 5
  peers : tryGetPeerEvent x.mPeers (x.contexts 0).registeredPeers = .null

theorem ready_acquainted : Ready acquainted :=
  ⟨by decide +kernel, by decide +kernel, by decide +kernel, by decide +kernel, rfl⟩

theorem mode_acquainted : acquainted.mBudgetMode = true := by decide +kernel

theorem Ready.queue {x : Client} (ready : Ready x) (events : List CbtEvent) :
    Ready { x with mQueuedEvents := events } :=
  ⟨ready.position, ready.branch, ready.told, ready.self, ready.peers⟩

def sending (event : CbtEvent) : List Client.Label :=
  [.internal, .internal, .internal, .internal, .sent 0 5 (.combatEvent event)]

def takes (x : Client) (event : CbtEvent) (rest : List CbtEvent) : Client :=
  { x with mQueuedEvents := rest, position := .sendEvent 0 5 (.combatEvent event) }.sendEvent 0
    (.combatEvent event)

theorem run_sending {x : Client} {event : CbtEvent} {rest : List CbtEvent} (ready : Ready x)
    (queued : x.mQueuedEvents = event :: rest) :
    Run (Writes 0) x (sending event) (takes x event rest) := by
  obtain ⟨position, branch, told, self, peers⟩ := ready
  have looked : (x.goto (.selfInfo 0)).checkSelf 0 = x.goto (.peerEvent 0 5) := by
    have same : ¬ (x.contexts 0).registeredInstanceId ≠ x.selfInfo.instanceId := by
      rw [told, self]
      decide
    have nonzero : (x.contexts 0).registeredInstanceId ≠ 0 := by
      rw [told]
      decide
    unfold Client.checkSelf
    dsimp only [Client.goto]
    rw [if_neg same, if_pos nonzero, self]
  have synced : (x.goto (.peerEvent 0 5)).checkPeers 0 5 = x.goto (.queuedEvent 0 5) := by
    unfold Client.checkPeers
    dsimp only [Client.goto]
    rw [peers]
  have popped : (x.goto (.queuedEvent 0 5)).checkQueue 0 5 =
      { x with mQueuedEvents := rest, position := .sendEvent 0 5 (.combatEvent event) } := by
    unfold Client.checkQueue
    dsimp only [Client.goto]
    rw [queued]
  have looks : Client.Step .documented (x.goto (.selfInfo 0)) .internal
      (x.goto (.peerEvent 0 5)) := by
    rw [← looked]
    exact .checkSelf rfl
  have syncs : Client.Step .documented (x.goto (.peerEvent 0 5)) .internal
      (x.goto (.queuedEvent 0 5)) := by
    rw [← synced]
    exact .checkPeers rfl
  have pops : Client.Step .documented (x.goto (.queuedEvent 0 5)) .internal
      { x with mQueuedEvents := rest, position := .sendEvent 0 5 (.combatEvent event) } := by
    rw [← popped]
    exact .checkQueue rfl
  have fewer : rest.length ≤ x.mQueuedEvents.length := by
    rw [queued]
    exact Nat.le_succ _
  have r0 : Run (Writes 0) x [] x := .nil
  have r1 := r0.snoc (.quiet (@Client.Step.send _ _ 0 position branch) rfl rfl rfl)
  have r2 := r1.snoc (.quiet looks rfl rfl rfl)
  have r3 := r2.snoc (.quiet syncs rfl rfl rfl)
  have r4 := r3.snoc ⟨pops, fewer, rfl, by rintro _ _ _ ⟨⟩⟩
  exact r4.snoc (.sends 5 (.combatEvent event) (.combatEvent event) rfl rfl rfl)

section Lift

variable {s₀ : Sharing}

theorem run_client {ls : List Client.Label} {y : Client}
    (before : Run (fun s op t => Step .documented a b s op t ∧ s.Knows .documented a b i u op) s₀
      ops s) (run : Run (Writes a) s.client ls y) :
    Run (fun s op t => Step .documented a b s op t ∧ s.Knows .documented a b i u op) s₀
      (ops ++ ls.map .client) { s with client := y, system := ls.foldl follow s.system } := by
  induction run with
  | nil =>
    rw [List.map_nil, List.append_nil]
    exact before
  | snoc _ last ih =>
    rw [List.map_append, ← List.append_assoc, List.foldl_append]
    exact ih.snoc ⟨.client last.step last.fewer last.budgetMode, last.own⟩

def Silent (a b : ConnectionId) : System.Op → Prop
  | .write client _ => client ≠ a
  | .serve op => op.reads.bind (meant ·.2) = none
  | .deliver client => client ≠ b

instance (a b : ConnectionId) : DecidablePred (Silent a b)
  | .write client _ => inferInstanceAs (Decidable (client ≠ a))
  | .serve op => inferInstanceAs (Decidable (op.reads.bind (meant ·.2) = none))
  | .deliver client => inferInstanceAs (Decidable (client ≠ b))

theorem Silent.passes {n : System} {op : System.Op} (silent : Silent a b op) :
    System.Passes a b i n op := by
  constructor
  · rintro served data rest rfl reads - told
    have quiet : served.reads.bind (meant ·.2) = none := silent
    rw [reads, Option.bind_some] at quiet
    rw [quiet] at told
    cases told
  · rintro served client data rest rfl reads - - told
    have quiet : served.reads.bind (meant ·.2) = none := silent
    rw [reads, Option.bind_some] at quiet
    rw [quiet] at told
    cases told

theorem run_network {nops : List System.Op} {n : System}
    (before : Run (fun s op t => Step .documented a b s op t ∧ s.Knows .documented a b i u op) s₀
      ops s) (run : Run System.Step s.system nops n) (silent : ∀ op ∈ nops, Silent a b op) :
    Run (fun s op t => Step .documented a b s op t ∧ s.Knows .documented a b i u op) s₀
      (ops ++ nops.map .network) { s with system := n } := by
  induction run with
  | nil =>
    rw [List.map_nil, List.append_nil]
    exact before
  | @snoc _ _ op _ _ step ih =>
    have earlier := ih fun op mem => silent op (List.mem_append_left _ mem)
    have last := silent op (by simp)
    rw [List.map_append, ← List.append_assoc]
    refine earlier.snoc ⟨.network step ?_ ?_, last.passes⟩
    · rintro rfl
      exact last rfl
    · rintro data rfl
      exact last rfl

end Lift

def entered : Callback :=
  ⟨fightEvent 10 0 1 0, ⟨some [65], 77, 1, 0, 1, 1⟩, ⟨some [67], 88, 1, 0, 0, 1⟩, {}⟩

def strangers : Sharing :=
  { system := .initial 30000, client := { mBudgetMode := true }, sender := { selfInstanceId := 5 },
    receiver := { agentTable := fightTable } }

def greeting : List System.Op :=
  [.write 1 (Message.registerSelf 6 [66]).encode, .serve .start] ++
    System.rounds ⟨0, .connect 0⟩ [] ++
    System.rounds ⟨1, .readMessage 0⟩ (Message.registerSelf 5 [65]).encode ++
    System.rounds ⟨0, .connect 1⟩ [] ++
    System.rounds ⟨2, .readMessage 1⟩ (Message.registerSelf 6 [66]).encode ++
    System.rounds ⟨1, .readMessage 0⟩ (Message.addPeer 6 [66]).encode

theorem silent_greeting : ∀ op ∈ greeting, Silent 0 1 op := by decide +kernel

theorem fightTable_alone {j : UInt16} (known : fightTable.getUniqueId j false = some 77) :
    j = 5 := by
  by_contra other
  have foreign : ¬ 5 = j := Ne.symm other
  by_cases enemy : 9 = j
  · subst enemy
    simp [fightTable, AgentTable.getUniqueId, AgentTable.addAgent, AgentTable.empty, Agent.entry,
      Std.ExtTreeMap.getElem?_insert] at known
  · simp [fightTable, AgentTable.getUniqueId, AgentTable.addAgent, AgentTable.empty,
      Std.ExtTreeMap.getElem?_insert, foreign, enemy] at known

theorem call_acquainted {x : Callback} (events : List CbtEvent)
    (client : s.client = { acquainted with mQueuedEvents := events })
    (room : events.length ≤ 5000)
    (sends : sendsEvent .documented true (forwarded .documented s.sender x)) :
    s.call .documented x =
      { s with
        sender := Sent.after .documented ⟨s.sender, x⟩
        client :=
          { acquainted with mQueuedEvents := events ++ [forwarded .documented s.sender x] }
        sent := s.sent ++ [⟨s.sender, x⟩] } := by
  have mode : s.client.mBudgetMode = true := by
    rw [client]
    exact mode_acquainted
  have room : s.client.mQueuedEvents.length ≤ 5000 := by
    rw [client]
    exact room
  unfold Sharing.call
  dsimp only
  rw [mode, if_pos sends, Client.processLocalEvent_of_sends (mode ▸ sends) room, client]

def enteredOps : List Op :=
  registering.map .client ++ greeting.map .network ++
    [.callback entered, .callback Link.healed] ++ (sending (fightEvent 10 0 1 0)).map .client ++
    (System.rounds ⟨1, .readMessage 0⟩
      (Message.combatEvent (fightEvent 10 0 1 0)).encode).map .network ++ [.deliver]

theorem run_entered : ∃ s, Run
    (fun s op t => Step .documented 0 1 s op t ∧ s.Knows .documented 0 1 5 77 op) strangers
      enteredOps s ∧ s.arrived 1 5 = 1 ∧ (s.receiver.peerState 77).enteredCombatTime = 10 := by
  have r0 : Run (fun s op t => Step .documented 0 1 s op t ∧ s.Knows .documented 0 1 5 77 op)
    strangers [] strangers := .nil
  have r1 := run_client r0 run_registering
  -- the server hears of both
  have asked : Run System.Step (registering.foldl follow (.initial 30000)) [] _ := .nil
  have asked : Run System.Step _ (_ ++ [.write 1 (Message.registerSelf 6 [66]).encode]) _ :=
    asked.snoc .write
  have started := asked.snoc (.serve (.start rfl) rfl)
  have connects := System.run_accepts (d := ⟨0, .connect 0⟩) started rfl (.head _) rfl rfl
  have registers := System.run_reads (d := ⟨1, .readMessage 0⟩) connects rfl (.head _) rfl rfl rfl
  have joins := System.run_accepts (d := ⟨0, .connect 1⟩) registers rfl (by decide) rfl rfl
  have both := System.run_reads (d := ⟨2, .readMessage 1⟩) joins rfl (by decide) rfl rfl rfl
  have listed := System.run_reads (d := ⟨1, .readMessage 0⟩) both rfl (by decide) rfl rfl rfl
  have r2 := run_network r1 listed silent_greeting
  -- two events come up before the client has written the first one
  have r3 := r2.snoc ⟨.callback (x := entered), ⟨by decide, by decide⟩, fun _ => Nat.zero_le _⟩
  rw [call_acquainted [] rfl (by decide) (by decide)] at r3
  have r4 := r3.snoc ⟨.callback (x := Link.healed), ⟨by decide, by decide⟩, fun _ => by decide⟩
  rw [call_acquainted _ rfl (by decide) (by decide)] at r4
  have r5 := run_client r4 (run_sending (ready_acquainted.queue _) rfl)
  -- and the server passes that one on
  have r6 := r5.snoc ⟨.network (.serve (@Frontend.Step.next _ ⟨1, .readMessage 0⟩ true rfl
    (by decide)) rfl) (by rintro ⟨⟩) (by rintro _ ⟨⟩), Silent.passes rfl⟩
  have r7 := r6.snoc ⟨.network (.serve (.check rfl) rfl) (by rintro ⟨⟩) (by rintro _ ⟨⟩),
    Silent.passes rfl⟩
  have r8 := r7.snoc ⟨.network (.read (Frontend.step_taken _ 0 0 _ rfl) rfl rfl) (by rintro ⟨⟩)
    (by rintro _ ⟨⟩), by rintro _ _ _ ⟨⟩ ⟨⟩ ⟨⟩ -; exact ⟨rfl, rfl, List.mem_singleton.mpr rfl⟩,
      by rintro _ _ _ _ ⟨⟩ ⟨⟩ foreign; exact absurd rfl foreign⟩
  have r9 := r8.snoc ⟨.deliver (e := ⟨fightEvent 10 0 1 0, 5⟩) rfl,
    fun j known => fightTable_alone known, by rintro x ⟨⟩; exact fightTable_enemy⟩
  simp only [List.append_assoc] at r9
  unfold enteredOps
  simp only [List.append_assoc]
  exact ⟨_, r9, rfl, rfl⟩

end Witness

end Sharing

end ArcdpsHealing.Processor
