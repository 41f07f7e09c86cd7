import ArcdpsHealing.Networking.FrontendDelivery
import ArcdpsHealing.Networking.FrontendInvariant
import ArcdpsHealing.Networking.Wire

/-! Events from one client to another one, by way of the server. -/

namespace ArcdpsHealing.Networking

open Arcdps Lib

def Frontend.Op.reads : Frontend.Op → Option (ConnectionId × List UInt8)
  | .process ⟨_, .readMessage client⟩ _ _ data => some (client, data)
  | _ => none

/-- The server with what is under way to it and from it. A client may write
whatever bytes it likes. -/
structure System where
  frontend : Frontend
  sent : ConnectionId → List (List UInt8) := fun _ => []
  uplink : ConnectionId → List (List UInt8) := fun _ => []
  delivered : ConnectionId → Nat := fun _ => 0
  received : ConnectionId → List (CbtEvent × UInt16) := fun _ => []

namespace System

variable (s : System)

def write (client : ConnectionId) (data : List UInt8) : System :=
  { s with
    sent := Function.update s.sent client (s.sent client ++ [data])
    uplink := Function.update s.uplink client (s.uplink client ++ [data]) }

def serve (f : Frontend) : System := { s with frontend := f }

def read (client : ConnectionId) (rest : List (List UInt8)) (f : Frontend) : System :=
  { s with frontend := f, uplink := Function.update s.uplink client rest }

/-- `evtc_rpc_client::HandleReadMessage`, with the callback that it may call. -/
def deliver (client : ConnectionId) (e : CombatEvent) : System :=
  { s with
    delivered := Function.update s.delivered client (s.delivered client + 1)
    received :=
      match Client.parse e.blob with
      | .ok (some event) => Function.update s.received client (s.received client ++ [event])
      | .ok none => s.received
      | .error _ => s.received }

inductive Op
  | write (client : ConnectionId) (data : List UInt8)
  | serve (op : Frontend.Op)
  | deliver (client : ConnectionId)

/-- A stream is first in, first out in both directions, and may end anywhere. -/
inductive Step (s : System) : Op → System → Prop
  | write {client data} : Step s (.write client data) (s.write client data)
  | read {op f client data rest} (step : Frontend.Step s.frontend op f)
      (reads : op.reads = some (client, data)) (arrived : s.uplink client = data :: rest) :
      Step s (.serve op) (s.read client rest f)
  | serve {op f} (step : Frontend.Step s.frontend op f) (other : op.reads = none) :
      Step s (.serve op) (s.serve f)
  | deliver {client e}
      (next : (s.frontend.view client).written[s.delivered client]? = some e) :
      Step s (.deliver client) (s.deliver client e)

def initial (threshold : UInt64) : System := { frontend := .initial threshold }

end System

namespace Frontend

variable {f g : Frontend} {client c : ConnectionId} {es : ConnectionId → List CombatEvent}
  {d : CallData}

theorem Carries.sends (carries : Carries f es) (sends : List Send) :
    Carries (sends.foldl Frontend.sendEventToClient f)
      fun c => es c ++ sends.filterMap (Send.toward c) := by
  induction sends generalizing f es with
  | nil =>
    simp only [List.filterMap_nil, List.append_nil]
    exact carries
  | cons s sends ih =>
    have head (c : ConnectionId) : (s :: sends).filterMap (Send.toward c) =
        (s.toward c).toList ++ sends.filterMap (Send.toward c) := by
      rw [List.filterMap_cons]
      split <;> rename_i same <;> rw [same] <;> rfl
    simp only [head, ← List.append_assoc]
    exact ih (carries.sendEventToClient s fun _ => rfl)

theorem Carries.discard (carries : Carries f es) (d : CallData) : Carries (f.discard d) es := by
  unfold Frontend.discard
  split
  · rename_i client tag
    have gone := (carries.keep (g := { f with server := f.server.forceDisconnect client }) rfl
      rfl).interfaceForceDisconnect "shutdown by client" client
    exact gone.keep rfl rfl
  · exact carries.keep rfl rfl

theorem Carries.step {op : Op} (carries : Carries f es) (step : Step f op g)
    (other : op.reads = none) : Carries g es := by
  cases step with
  | discard => exact (carries.keep (g := f.resume) rfl rfl).discard _
  | @process d now now' data handling online =>
    have resumed : Carries f.resume es := carries.keep rfl rfl
    obtain ⟨address, tag⟩ := d
    cases tag with
    | readMessage client => cases other
    | writeEvent client => exact resumed.handleWriteEvent
    | connect | disconnect | wakeUp => exact resumed.keep rfl rfl
  | start | next | check | closeQueue | setShuttingDown | drained | shutdown | shutdownAgain
  | newWakeUp | setAlarm => exact carries.keep rfl rfl

theorem step_reads {op : Op} {data : List UInt8} (step : Step f op g)
    (reads : op.reads = some (client, data)) :
    ∃ now h d, Handles f.resume client data (f.accepted now data client) h ∧ g = h.begin d := by
  unfold Op.reads at reads
  split at reads
  · cases reads
    cases step with
    | process handling online =>
      exact ⟨_, _, _, handleReadMessage_handles f.resume _ _ data client, rfl⟩
  · cases reads

theorem written_step {op : Op} (step : Step f op g) (client : ConnectionId) :
    (f.view client).written <+: (g.view client).written := by
  obtain ⟨ops, run⟩ := step.follows client
  have issued : (f.view client).issued <+: (g.view client).issued :=
    run.invariant (P := fun x => (f.view client).issued <+: x.issued) (fun _ => True)
      (fun before _ step => before.trans (Stream.prefix_issued step)) List.prefix_rfl
      (fun _ _ => trivial)
  exact issued.filterMap StreamCall.written

end Frontend

/-- The event that some bytes from a client tell of. -/
def meant (data : List UInt8) : Option CbtEvent :=
  match Message.parse data with
  | .ok (some (.combatEvent event)) => some event
  | .ok _ => none
  | .error _ => none

theorem toward_sends (peers : List ConnectionId) (event : CbtEvent) (senderInstanceId : UInt16)
    (c : ConnectionId) :
    (peers.map fun peer => (⟨peer, event, senderInstanceId⟩ : Send)).filterMap (Send.toward c) =
      List.replicate (peers.count c) ⟨event, senderInstanceId⟩ := by
  induction peers with
  | nil => rfl
  | cons peer peers ih =>
    rw [List.map_cons, List.filterMap_cons, ih, List.count_cons]
    by_cases same : peer = c
    · simp [Send.toward, same, List.replicate_succ]
    · simp [Send.toward, same]

theorem toward_accepts {s s' : Server} (consistent : Consistent s) {data : List UInt8} {m : Message}
    {now : Int64} {client c : ConnectionId} {sends : List Send}
    (parsed : Message.parse data = .ok (some m)) (accepts : s.Accepts now client m s' sends) :
    ((sends.filterMap (Send.toward c)).map (·.event)).Sublist (meant data).toList := by
  cases accepts with
  | combatEvent registered =>
    rename_i event
    have distinct : (s.recipients client).Nodup := consistent.nodup_recipients
    have one := List.nodup_iff_count_le_one.mp distinct c
    have told : meant data = some event := by
      unfold meant
      rw [parsed]
    have same : (s.sends client event).filterMap (Send.toward c) =
        List.replicate ((s.recipients client).count c)
          ⟨event, (s.connections client).instanceId⟩ := toward_sends _ _ _ c
    rw [same, told, List.map_replicate]
    exact List.replicate_sublist_replicate event |>.mpr one
  | register | takeOver | setSelfId | addPeer | removePeer => exact List.nil_sublist _

namespace System

variable {s t : System} {op : Op} {routes : ConnectionId → List (ConnectionId × CombatEvent)}

def heard (e : CombatEvent) : CbtEvent × UInt16 := (e.event, e.senderInstanceId)

structure Relays (s : System) (routes : ConnectionId → List (ConnectionId × CombatEvent)) :
    Prop where
  carries : s.frontend.Carries fun c => (routes c).map (·.2)
  ordered : ∀ sender, ∃ done, s.sent sender = done ++ s.uplink sender ∧ ∀ c,
    (((routes c).filter (·.1 = sender)).map (·.2.event)).Sublist (done.filterMap meant)
  count : ∀ c, (s.received c).length = s.delivered c
  received : ∀ c, s.received c <+: ((s.frontend.view c).written).map heard

theorem Relays.write (relays : Relays s routes) (client : ConnectionId) (data : List UInt8) :
    Relays (s.write client data) routes := by
  refine { relays with ordered := fun sender => ?_ }
  obtain ⟨done, sent, sublists⟩ := relays.ordered sender
  refine ⟨done, ?_, sublists⟩
  by_cases same : sender = client
  · subst same
    simp only [System.write, Function.update_self]
    rw [sent, List.append_assoc]
  · simp only [System.write, Function.update_of_ne same]
    exact sent

theorem Relays.serve {op : Frontend.Op} {f : Frontend} (relays : Relays s routes)
    (step : Frontend.Step s.frontend op f) (other : op.reads = none) :
    Relays (s.serve f) routes :=
  { relays with
    carries := relays.carries.step step other
    received := fun c => (relays.received c).trans ((Frontend.written_step step c).map heard) }

theorem Relays.deliver (relays : Relays s routes) {client : ConnectionId} {e : CombatEvent}
    (next : (s.frontend.view client).written[s.delivered client]? = some e) :
    Relays (s.deliver client e) routes := by
  have received : (s.deliver client e).received =
      Function.update s.received client (s.received client ++ [heard e]) := by
    unfold System.deliver
    rw [Client.parse_blob]
    rfl
  obtain ⟨carries, ordered, count, heard'⟩ := relays
  refine ⟨carries, ordered, fun c => ?_, fun c => ?_⟩
  · by_cases same : c = client
    · subst same
      rw [received]
      simp only [System.deliver, Function.update_self, List.length_append, count]
      rfl
    · rw [received]
      simp only [System.deliver, Function.update_of_ne same, count]
  · rw [received]
    by_cases same : c = client
    · subst same
      have before := List.prefix_iff_eq_take.mp (heard' c)
      have last : (((s.frontend.view c).written.map heard)[s.delivered c]?).toList = [heard e] := by
        rw [List.getElem?_map, next]
        rfl
      rw [count] at before
      rw [Function.update_self, before, ← last, ← List.take_add_one]
      exact List.take_prefix _ _
    · rw [Function.update_of_ne same]
      exact heard' c

def extend (routes : ConnectionId → List (ConnectionId × CombatEvent)) (client : ConnectionId)
    (sends : List Send) (c : ConnectionId) : List (ConnectionId × CombatEvent) :=
  routes c ++ (sends.filterMap (Send.toward c)).map (client, ·)

theorem Relays.read {client : ConnectionId} {data : List UInt8} {rest : List (List UInt8)}
    {f : Frontend} (relays : Relays s routes) (arrived : s.uplink client = data :: rest)
    (sends : List Send)
    (carries : f.Carries fun c => (extend routes client sends c).map (·.2))
    (few : ∀ c, ((sends.filterMap (Send.toward c)).map (·.event)).Sublist (meant data).toList)
    (written : ∀ c, (s.frontend.view c).written <+: (f.view c).written) :
    Relays (s.read client rest f) (extend routes client sends) := by
  refine ⟨carries, fun sender => ?_, relays.count,
    fun c => (relays.received c).trans ((written c).map heard)⟩
  obtain ⟨done, sent, sublists⟩ := relays.ordered sender
  by_cases same : sender = client
  · subst same
    have uplink : (s.read sender rest f).uplink sender = rest := Function.update_self _ _ _
    refine ⟨done ++ [data], ?_, fun c => ?_⟩
    · rw [uplink, List.append_assoc]
      exact sent.trans (congrArg (done ++ ·) arrived)
    · have own : ((sends.filterMap (Send.toward c)).map (sender, ·)).filter (·.1 = sender) =
          (sends.filterMap (Send.toward c)).map (sender, ·) := by
        refine List.filter_eq_self.mpr fun x mem => ?_
        obtain ⟨e, -, rfl⟩ := List.mem_map.mp mem
        exact decide_eq_true rfl
      have meant : [data].filterMap meant = (meant data).toList := by
        cases told : meant data <;> simp [told]
      rw [extend, List.filter_append, List.map_append, own, List.filterMap_append, meant,
        List.map_map]
      exact (sublists c).append (few c)
  · have uplink : (s.read client rest f).uplink sender = s.uplink sender :=
      Function.update_of_ne same _ _
    refine ⟨done, sent.trans (congrArg (done ++ ·) uplink.symm), fun c => ?_⟩
    have foreign : ((sends.filterMap (Send.toward c)).map (client, ·)).filter (·.1 = sender) =
        [] := by
      refine List.filter_eq_nil_iff.mpr fun x mem => ?_
      obtain ⟨e, -, rfl⟩ := List.mem_map.mp mem
      exact fun here => same (of_decide_eq_true here).symm
    rw [extend, List.filter_append, foreign, List.append_nil]
    exact sublists c

theorem extend_nil (routes : ConnectionId → List (ConnectionId × CombatEvent))
    (client : ConnectionId) : extend routes client [] = routes := by
  funext c
  exact List.append_nil _

inductive Extends (before : System) (made : ConnectionId → List (ConnectionId × CombatEvent)) :
    Op → (ConnectionId → List (ConnectionId × CombatEvent)) → Prop
  | same {op : Op} (other : ∀ served, op = .serve served → served.reads = none) :
      Extends before made op made
  | read {op : Frontend.Op} {client : ConnectionId} {data : List UInt8} {rest : List (List UInt8)}
      (now : Int64) (reads : op.reads = some (client, data))
      (arrived : before.uplink client = data :: rest) :
      Extends before made (.serve op)
        (extend made client (before.frontend.accepted now data client))

theorem Relays.reads {op : Frontend.Op} {f : Frontend} {client : ConnectionId} {data : List UInt8}
    {rest : List (List UInt8)} (relays : Relays s routes)
    (consistent : Consistent s.frontend.server)
    (step : Frontend.Step s.frontend op f) (reads : op.reads = some (client, data))
    (arrived : s.uplink client = data :: rest) :
    ∃ now, Relays (s.read client rest f)
      (extend routes client (s.frontend.accepted now data client)) := by
  have written (c : ConnectionId) := Frontend.written_step step c
  have resumed : s.frontend.resume.Carries fun c => (routes c).map (·.2) :=
    relays.carries.keep rfl rfl
  obtain ⟨now, h, d, handles, rfl⟩ := Frontend.step_reads step reads
  refine ⟨now, ?_⟩
  generalize s.frontend.accepted now data client = sends at handles
  -- Whatever comes of it but an accepted message.
  have plain (carries : (h.begin d).Carries fun c => (routes c).map (·.2)) :
      Relays (s.read client rest (h.begin d)) (extend routes client []) := by
    refine relays.read arrived [] ?_ (fun _ => List.nil_sublist _) written
    rw [extend_nil]
    exact carries
  cases handles with
  | ignored => exact plain (resumed.keep rfl rfl)
  | rejected errorMessage =>
    have gone := (resumed.keep
      (g := { s.frontend.resume with server := s.frontend.server.forceDisconnect client }) rfl
      rfl).interfaceForceDisconnect errorMessage client
    exact plain (gone.keep rfl rfl)
  | @accepted now₁ now₂ m s' sends parsed accepts =>
    refine relays.read arrived sends ?_ (fun c => toward_accepts consistent parsed accepts) written
    have sent := ((resumed.supersede m).keep
      (g := { s.frontend.resume.supersede m with server := s' }) rfl rfl).sends sends
    have more (c : ConnectionId) : (extend routes client sends c).map (·.2) =
        (routes c).map (·.2) ++ sends.filterMap (Send.toward c) := by
      rw [extend, List.map_append, List.map_map]
      exact congrArg _ (List.map_id _)
    simp only [more]
    exact sent.keep rfl rfl

theorem Relays.step {threshold : UInt64} {served : List Frontend.Op}
    (run : Run Frontend.Step (.initial threshold) served s.frontend) (relays : Relays s routes)
    (step : Step s op t) :
    (∃ served', Run Frontend.Step (.initial threshold) served' t.frontend) ∧
      ∃ routes', Relays t routes' ∧ Extends s routes op routes' := by
  cases step with
  | write => exact ⟨⟨_, run⟩, _, relays.write _ _, .same (by rintro _ ⟨⟩)⟩
  | serve step other =>
    refine ⟨⟨_, run.snoc step⟩, _, relays.serve step other, .same ?_⟩
    rintro _ ⟨⟩
    exact other
  | deliver next => exact ⟨⟨_, run⟩, _, relays.deliver next, .same (by rintro _ ⟨⟩)⟩
  | read step reads arrived =>
    obtain ⟨now, relays'⟩ :=
      relays.reads (Frontend.run_inv run).consistent step reads arrived
    exact ⟨⟨_, run.snoc step⟩, _, relays', .read now reads arrived⟩

theorem initial_relays (threshold : UInt64) : Relays (initial threshold) fun _ => [] := by
  refine ⟨⟨fun _ => rfl, fun _ _ => rfl⟩, fun sender => ⟨[], rfl, fun _ => List.nil_sublist _⟩,
    fun _ => rfl, fun _ => List.nil_prefix⟩

/-- Every event that a client hears of has come from some client, that has sent
it. Each arrives once at most, and those from one client arrive in its order. -/
theorem end_to_end {threshold : UInt64} {ops : List Op} (run : Run Step (.initial threshold) ops s)
    (receiver : ConnectionId) :
    ∃ routes : List (ConnectionId × CombatEvent),
      s.received receiver <+: routes.map (fun route => heard route.2) ∧
        ∀ sender, ((routes.filter (·.1 = sender)).map (·.2.event)).Sublist
          ((s.sent sender).filterMap meant) := by
  have reached : (∃ served, Run Frontend.Step (.initial threshold) served s.frontend) ∧
      ∃ routes, Relays s routes := by
    induction run with
    | nil => exact ⟨⟨_, .nil⟩, _, initial_relays threshold⟩
    | snoc before step ih =>
      obtain ⟨⟨served, run⟩, routes, relays⟩ := ih
      obtain ⟨reached, routes', relays', -⟩ := relays.step run step
      exact ⟨reached, routes', relays'⟩
  obtain ⟨-, routes, relays⟩ := reached
  refine ⟨routes receiver, ?_, fun sender => ?_⟩
  · have whole : (routes receiver).map (fun route => heard route.2) =
        ((s.frontend.view receiver).written ++
          (s.frontend.interfaces receiver).queuedEvents).map heard := by
      rw [← relays.carries.order receiver, List.map_map]
      rfl
    rw [whole, List.map_append]
    exact (relays.received receiver).trans (List.prefix_append _ _)
  · obtain ⟨done, sent, sublists⟩ := relays.ordered sender
    rw [sent, List.filterMap_append]
    exact (sublists receiver).trans (List.sublist_append_left _ _)

section Witness

variable {s₀ : System} {ops : List Op} {d : Frontend.CallData} {client : ConnectionId}

def rounds (d : Frontend.CallData) (data : List UInt8) : List Op :=
  (Frontend.round d 0 0 data).map .serve

def served (f : Frontend) (d : Frontend.CallData) (data : List UInt8) : Frontend :=
  ((f.take d true).check d true).resume.process d 0 0 data

section Round

variable (before : Run Step s₀ ops s) (looping : s.frontend.serving = .looping)
  (completed : d ∈ s.frontend.pending) (online : s.frontend.shutdownState = .online)

include before looping completed online

theorem run_accepts (connect : d.tag = .connect client) :
    Run Step s₀ (ops ++ rounds d []) (s.serve (served s.frontend d [])) := by
  have taken : Run Step s₀ (ops ++ [.serve (.next d true)]) (s.serve (s.frontend.take d true)) :=
    before.snoc (.serve (.next looping completed) rfl)
  have checked : Run Step s₀ (ops ++ [.serve (.next d true)] ++ [.serve .check])
      (s.serve ((s.frontend.take d true).check d true)) := taken.snoc (.serve (.check rfl) rfl)
  obtain ⟨address, tag⟩ := d
  cases connect
  have done := checked.snoc (.serve (Frontend.step_taken _ 0 0 [] online) rfl)
  rw [List.append_assoc, List.append_assoc] at done
  exact done

theorem run_reads {data : List UInt8} {rest : List (List UInt8)}
    (tag : d.tag = .readMessage client) (arrived : s.uplink client = data :: rest) :
    Run Step s₀ (ops ++ rounds d data) (s.read client rest (served s.frontend d data)) := by
  have taken : Run Step s₀ (ops ++ [.serve (.next d true)]) (s.serve (s.frontend.take d true)) :=
    before.snoc (.serve (.next looping completed) rfl)
  have checked : Run Step s₀ (ops ++ [.serve (.next d true)] ++ [.serve .check])
      (s.serve ((s.frontend.take d true).check d true)) := taken.snoc (.serve (.check rfl) rfl)
  obtain ⟨address, _⟩ := d
  cases tag
  have done := checked.snoc (.read (Frontend.step_taken _ 0 0 data online) rfl arrived)
  rw [List.append_assoc, List.append_assoc] at done
  exact done

end Round

def written : List Op :=
  [.write 0 (Message.registerSelf 5 [97]).encode, .write 1 (Message.registerSelf 6 [98]).encode,
    .write 0 (Message.addPeer 6 [98]).encode, .write 0 (Message.combatEvent swing).encode]

def passedOn : List Op :=
  rounds ⟨0, .connect 0⟩ [] ++ rounds ⟨1, .readMessage 0⟩ (Message.registerSelf 5 [97]).encode ++
    rounds ⟨0, .connect 1⟩ [] ++ rounds ⟨2, .readMessage 1⟩ (Message.registerSelf 6 [98]).encode ++
    rounds ⟨1, .readMessage 0⟩ (Message.addPeer 6 [98]).encode ++
    rounds ⟨1, .readMessage 0⟩ (Message.combatEvent swing).encode ++ [.deliver 1]

theorem run_written : Run Step (.initial 30000) written
    (((((initial 30000).write 0 (Message.registerSelf 5 [97]).encode).write 1
      (Message.registerSelf 6 [98]).encode).write 0 (Message.addPeer 6 [98]).encode).write 0
        (Message.combatEvent swing).encode) :=
  .snoc (.snoc (.snoc (.snoc .nil .write) .write) .write) .write

theorem run_passedOn : ∃ s, Run Step (.initial 30000) (written ++ [.serve .start] ++ passedOn) s ∧
    s.received 1 = [(swing, 5)] := by
  have started := run_written.snoc (.serve (.start rfl) rfl)
  have connected := run_accepts (d := ⟨0, .connect 0⟩) started rfl (.head _) rfl rfl
  have registered := run_reads (d := ⟨1, .readMessage 0⟩) connected rfl (.head _) rfl rfl rfl
  have joined := run_accepts (d := ⟨0, .connect 1⟩) registered rfl (by decide) rfl rfl
  have both := run_reads (d := ⟨2, .readMessage 1⟩) joined rfl (by decide) rfl rfl rfl
  have listed := run_reads (d := ⟨1, .readMessage 0⟩) both rfl (by decide) rfl rfl rfl
  have swung := run_reads (d := ⟨1, .readMessage 0⟩) listed rfl (by decide) rfl rfl rfl
  have heard : Run Step (.initial 30000) (_ ++ [.deliver 1]) _ :=
    swung.snoc (.deliver (e := ⟨swing, 5⟩) rfl)
  simp only [List.append_assoc] at heard
  unfold passedOn
  simp only [List.append_assoc]
  exact ⟨_, heard, rfl⟩

theorem end_to_end_passedOn : ∃ s,
    Run Step (.initial 30000) (written ++ [.serve .start] ++ passedOn) s ∧
    s.received 1 = [(swing, 5)] ∧
    ∃ routes : List (ConnectionId × CombatEvent),
      s.received 1 <+: routes.map (fun route => heard route.2) ∧
        ∀ sender, ((routes.filter (·.1 = sender)).map (·.2.event)).Sublist
          ((s.sent sender).filterMap meant) := by
  obtain ⟨s, run, received⟩ := run_passedOn
  exact ⟨s, run, received, end_to_end run 1⟩

end Witness

end System

end ArcdpsHealing.Networking
