import ArcdpsHealing.Networking.FrontendStreams
import ArcdpsHealing.Networking.OutgoingQueue
import ArcdpsHealing.Networking.Routing

namespace ArcdpsHealing.Networking

open Arcdps Lib

def Send.toward (client : ConnectionId) (s : Send) : Option CombatEvent :=
  if s.peer = client then some ⟨s.event, s.senderInstanceId⟩ else none

def routed (client : ConnectionId) (ls : List Label) : List CombatEvent :=
  ls.filterMap fun l => l.send.bind (Send.toward client)

theorem routed_snoc (client : ConnectionId) (ls : List Label) (l : Label) :
    routed client (ls ++ [l]) =
      routed client ls ++ (l.send.bind (Send.toward client)).toList := by
  unfold routed
  rw [List.filterMap_append, List.filterMap_cons, List.filterMap_nil]
  split <;> rename_i same <;> rw [same] <;> rfl

theorem routed_silent {client : ConnectionId} {ls : List Label} {l : Label}
    (silent : l.send = none) :
    routed client (ls ++ [l]) = routed client ls := by
  rw [routed_snoc, silent]
  exact List.append_nil _

namespace Frontend

variable {f g : Frontend} {client c : ConnectionId} {es : ConnectionId → List CombatEvent}
  {d : CallData}

structure Carries (f : Frontend) (es : ConnectionId → List CombatEvent) : Prop where
  order : ∀ c, es c = (f.view c).written ++ (f.interfaces c).queuedEvents
  calm : ∀ c, (f.interfaces c).writePending = false → (f.interfaces c).queuedEvents = []

namespace Carries

theorem keep (carries : Carries f es) (interfaces : g.interfaces = f.interfaces)
    (issued : g.issued = f.issued) : Carries g es := by
  obtain ⟨order, calm⟩ := carries
  constructor
  · intro c
    rw [order c, Stream.written, Stream.written, interfaces]
    exact congrArg (fun i => (i c).filterMap StreamCall.written ++ _) issued.symm
  · rw [interfaces]
    exact calm

theorem perform {es' : ConnectionId → List CombatEvent} (carries : Carries f es)
    {r : ConnectionInterface × List StreamCall} (hs : List CombatEvent)
    (given : r.2.filterMap StreamCall.written ++ r.1.queuedEvents =
      (f.interfaces client).queuedEvents ++ hs)
    (calm : r.1.writePending = false → r.1.queuedEvents = [])
    (more : ∀ c, es' c = es c ++ if c = client then hs else []) :
    Carries (f.perform client r) es' := by
  obtain ⟨order, calm'⟩ := carries
  constructor
  · intro c
    rw [more c, order c]
    by_cases same : c = client
    · subst same
      rw [if_pos rfl, List.append_assoc, ← given, ← List.append_assoc, interfaces_perform_self]
      simp only [Stream.written, view, issued_perform_self, List.filterMap_append]
    · rw [if_neg same, List.append_nil, view_perform_ne r same, interfaces_perform_ne r same]
  · intro c
    by_cases same : c = client
    · subst same
      rw [interfaces_perform_self]
      exact calm
    · rw [interfaces_perform_ne r same]
      exact calm' c

theorem sendEventToClient {es' : ConnectionId → List CombatEvent} (carries : Carries f es)
    (s : Send)
    (more : ∀ c, es' c = es c ++ (s.toward c).toList) : Carries (f.sendEventToClient s) es' := by
  have calm := carries.calm s.peer
  have more (c : ConnectionId) :
      es' c = es c ++ if c = s.peer then [⟨s.event, s.senderInstanceId⟩] else [] := by
    rw [more c, Send.toward]
    simp only [eq_comm (a := c)]
    split <;> rfl
  cases writing : (f.interfaces s.peer).writePending with
  | true =>
    rw [sendEventToClient_pending writing]
    refine carries.perform [⟨s.event, s.senderInstanceId⟩] ?_ ?_ more
    · simp [ConnectionInterface.sendEventToClient, writing]
    · simp [ConnectionInterface.sendEventToClient, writing]
  | false =>
    -- Nothing waits, so that writing at once overtakes nothing.
    have empty := calm writing
    rw [sendEventToClient_free writing]
    refine keep (carries.perform [⟨s.event, s.senderInstanceId⟩] ?_ ?_ more) rfl rfl
    · simp [ConnectionInterface.sendEventToClient, ConnectionInterface.sendEvent, writing, empty,
        StreamCall.written]
    · simp [ConnectionInterface.sendEventToClient, ConnectionInterface.sendEvent, writing]

theorem interfaceForceDisconnect (carries : Carries f es) (errorMessage : String)
    (client : ConnectionId) : Carries (f.interfaceForceDisconnect errorMessage client) es := by
  have asked : Carries (f.perform client ((f.interfaces client).forceDisconnect f.isShuttingDown
      errorMessage)) es := by
    have calm := carries.calm client
    refine carries.perform [] ?_ ?_ fun c => by split <;> exact (List.append_nil _).symm
    · unfold ConnectionInterface.forceDisconnect
      split
      · simp
      · split <;> simp [StreamCall.written]
    · unfold ConnectionInterface.forceDisconnect
      split
      · exact calm
      · split <;> exact calm
  unfold Frontend.interfaceForceDisconnect
  dsimp only
  split
  · exact asked
  · split
    · exact asked
    · exact asked.keep rfl rfl

theorem handleWriteEvent (carries : Carries f es) : Carries (f.handleWriteEvent d client) es := by
  have asked : Carries (f.perform client (f.interfaces client).handleWriteEvent) es := by
    refine carries.perform [] ?_ ?_ fun c => by split <;> exact (List.append_nil _).symm
    · unfold ConnectionInterface.handleWriteEvent ConnectionInterface.sendEvent
      cases queue : (f.interfaces client).queuedEvents with
      | nil => rfl
      | cons e rest => simp [StreamCall.written]
    · unfold ConnectionInterface.handleWriteEvent ConnectionInterface.sendEvent
      cases queue : (f.interfaces client).queuedEvents with
      | nil => exact fun _ => rfl
      | cons e rest => simp
  unfold Frontend.handleWriteEvent
  dsimp only
  split <;> exact asked.keep rfl rfl

theorem supersede (carries : Carries f es) (m : Message) : Carries (f.supersede m) es := by
  unfold Frontend.supersede
  split
  · split
    · exact carries.interfaceForceDisconnect _ _
    · exact carries
  · exact carries

end Carries

section Simulation

variable {threshold : UInt64} {k : Nat} {w₀ w : World} {ms : List Label} {op : Op} {ops : List Op}
  {begun : Call}

def Op.call : Op → Option (ConnectionId × Call)
  | .discard ⟨_, .readMessage client⟩ =>
    some (client, .disconnecting client "shutdown by client")
  | .process ⟨_, .readMessage client⟩ _ _ data =>
    some (client,
      if data.length < Message.header.size then .disconnecting client "short message header"
      else .incoming client data)
  | _ => none

/-- The run of the server that some operations make: their calls in order, each of
which is done before the next. -/
inductive Serves (threshold : UInt64) : List Op → List Label → World → Prop
  | nil : Serves threshold [] [] (.initial threshold)
  | silent {ops ls w op} (before : Serves threshold ops ls w) (silent : op.call = none) :
      Serves threshold (ops ++ [op]) ls w
  | call {ops ls w op client call k ms w'} (before : Serves threshold ops ls w)
      (makes : op.call = some (client, call)) (idle : w.calls k = .idle)
      (run : Run Networking.Step (w.goto k call) ms w') (own : ∀ l ∈ ms, l.call = k)
      (done : w'.calls k = .done) :
      Serves threshold (ops ++ [op]) (ls ++ ([⟨k, client, .received⟩] ++ ms)) w'

theorem Op.begins (makes : op.call = some (client, begun)) (idle : w.calls k = .idle) :
    Networking.Step w ⟨k, client, .received⟩ (w.goto k begun) := by
  unfold Op.call at makes
  split at makes
  · cases makes
    exact .close _ _ idle
  · obtain ⟨rfl, rfl⟩ := Prod.mk.inj (Option.some.inj makes)
    split
    · exact .close _ _ idle
    · exact .receive _ _ idle
  · cases makes

theorem Serves.run {ls : List Label} (serves : Serves threshold ops ls w) :
    Run Networking.Step (.initial threshold) ls w := by
  induction serves with
  | nil => exact .nil
  | silent _ _ ih => exact ih
  | call _ makes idle run _ _ ih =>
    have begun := Run.snoc .nil (Op.begins makes idle)
    exact ih.trans (begun.trans run)

structure Simulates (k : Nat) (w₀ : World) (es : ConnectionId → List CombatEvent)
    (ms : List Label) (w : World) (f : Frontend) : Prop where
  run : Run Networking.Step w₀ ms w
  own : ∀ l ∈ ms, l.call = k
  server : w.server = f.server
  carries : Carries f fun c => es c ++ routed c ms

def Fresh (w : World) : Prop := ∃ n, ∀ k, n ≤ k → w.calls k = .idle

def Finishes (k : Nat) (w₀ : World) (es : ConnectionId → List CombatEvent) (f : Frontend) : Prop :=
  ∃ ms w, Simulates k w₀ es ms w f ∧ w.calls k = .done ∧ Fresh w

theorem Fresh.goto (fresh : Fresh w) (k : Nat) (call : Call) : Fresh (w.goto k call) := by
  obtain ⟨n, idle⟩ := fresh
  refine ⟨max n (k + 1), fun j above => ?_⟩
  rw [World.calls_goto, if_neg (by omega)]
  exact idle j (by omega)

namespace Simulates

theorem nil (carries : Carries f es) (server : w.server = f.server) : Simulates k w es [] w f := by
  refine ⟨.nil, by rintro _ ⟨⟩, server, ?_⟩
  simp only [routed, List.filterMap_nil, List.append_nil]
  exact carries

theorem snoc {l : Label} {w' : World} (sim : Simulates k w₀ es ms w f)
    (step : Networking.Step w l w') (own : l.call = k) (silent : l.send = none)
    (server : w'.server = g.server) (interfaces : g.interfaces = f.interfaces)
    (issued : g.issued = f.issued) : Simulates k w₀ es (ms ++ [l]) w' g := by
  refine ⟨sim.run.snoc step, ?_, server, ?_⟩
  · intro l' mem
    obtain before | last := List.mem_append.mp mem
    · exact sim.own l' before
    · rw [List.mem_singleton.mp last]
      exact own
  · simp only [routed_silent silent]
    exact sim.carries.keep interfaces issued

theorem interfaceForceDisconnect (sim : Simulates k w₀ es ms w f) (errorMessage : String)
    (client : ConnectionId) :
    Simulates k w₀ es ms w (f.interfaceForceDisconnect errorMessage client) :=
  ⟨sim.run, sim.own, sim.server.trans (frame_interfaceForceDisconnect errorMessage).server.symm,
    sim.carries.interfaceForceDisconnect errorMessage client⟩

theorem disconnect {errorMessage : String} (sim : Simulates k w₀ es ms w f) (fresh : Fresh w)
    (h : w.calls k = .disconnecting client errorMessage) :
    Finishes k w₀ es (f.forceDisconnect errorMessage client) := by
  have disconnected := sim.snoc (g := { f with server := f.server.forceDisconnect client })
    (.disconnect h) rfl rfl (congrArg (Server.forceDisconnect · client) sim.server) rfl rfl
  exact ⟨_, _, disconnected.interfaceForceDisconnect errorMessage client,
    World.calls_goto_self _ k _,
    Fresh.goto (w := w.setServer (w.server.forceDisconnect client)) fresh k .done⟩

theorem sends {sends : List Send} (sim : Simulates k w₀ es ms w f) (fresh : Fresh w)
    (h : w.calls k = .sending client sends) :
    ∃ ms' w', Simulates k w₀ es ms' w' (sends.foldl Frontend.sendEventToClient f) ∧ Fresh w' ∧
      w'.calls k = .sending client [] := by
  induction sends generalizing f ms w with
  | nil => exact ⟨ms, w, sim, fresh, h⟩
  | cons s sends ih =>
    refine ih ⟨sim.run.snoc (.send h), ?_, ?_, ?_⟩ (fresh.goto k _) (w.calls_goto_self k _)
    · intro l mem
      obtain before | last := List.mem_append.mp mem
      · exact sim.own l before
      · rw [List.mem_singleton.mp last]
    · exact sim.server.trans (frame_sendEventToClient s).server.symm
    · refine sim.carries.sendEventToClient s fun c => ?_
      rw [routed_snoc, List.append_assoc]
      rfl

theorem accept {now : Int64} {data : List UInt8} {m : Message} {s : Server} {sends : List Send}
    (sim : Simulates k w₀ es ms w f) (fresh : Fresh w) (h : w.calls k = .incoming client data)
    (parsed : Message.parse data = .ok (some m))
    (handled : f.server.handle now client m = .ok (s, sends)) (now' : Int64) :
    let g := sends.foldl Frontend.sendEventToClient { f.supersede m with server := s }
    Finishes k w₀ es { g with server := g.server.stamp now' client } := by
  intro g
  let w₁ := (w.setServer s).goto k (.sending client sends)
  have silent : Label.send ⟨k, client, .accepted m⟩ = none := rfl
  have superseded : Simulates k w₀ es ms w (f.supersede m) :=
    ⟨sim.run, sim.own, sim.server.trans (frame_supersede m).server.symm, sim.carries.supersede m⟩
  have accepted : Simulates k w₀ es (ms ++ [⟨k, client, .accepted m⟩]) w₁
      { f.supersede m with server := s } :=
    superseded.snoc (.accept now h parsed (sim.server ▸ handled)) rfl silent rfl rfl rfl
  obtain ⟨ms', w', sent, fresh', ended⟩ := accepted.sends (.goto (w := w.setServer s) fresh k _)
    (World.calls_goto_self _ k _)
  have stamped := sent.snoc (g := { g with server := g.server.stamp now' client })
    (.stamp now' ended) rfl rfl (congrArg (Server.stamp · now' client) sent.server) rfl rfl
  exact ⟨_, _, stamped, World.calls_goto_self _ k _,
    .goto (w := w'.setServer (w'.server.stamp now' client)) fresh' k _⟩

theorem incoming (sim : Simulates k w₀ es ms w f) (fresh : Fresh w) {data : List UInt8}
    (h : w.calls k = .incoming client data) (now now' : Int64) :
    Finishes k w₀ es (f.handleIncomingMessage now now' data client) := by
  unfold Frontend.handleIncomingMessage Frontend.handle
  cases parsed : Message.parse data with
  | error errorMessage =>
    have malformed := sim.snoc (g := f) (.malformed h parsed) rfl rfl sim.server rfl rfl
    exact malformed.disconnect (fresh.goto k _) (World.calls_goto_self _ k _)
  | ok message =>
    cases message with
    | none =>
      have ignored := sim.snoc (g := f) (.ignore h parsed) rfl rfl sim.server rfl rfl
      exact ⟨_, _, ignored, World.calls_goto_self _ k _, fresh.goto k _⟩
    | some m =>
      dsimp only
      cases handled : f.server.handle now client m with
      | error errorMessage =>
        have rejected := sim.snoc (g := f) (.reject now h parsed (sim.server ▸ handled)) rfl rfl
          sim.server rfl rfl
        exact rejected.disconnect (fresh.goto k _) (World.calls_goto_self _ k _)
      | ok result =>
        obtain ⟨s, sends⟩ := result
        exact sim.accept fresh h parsed handled now'

end Simulates

def Served (threshold : UInt64) (ops : List Op) (f : Frontend) : Prop :=
  ∃ ls w, Serves threshold ops ls w ∧ w.server = f.server ∧ (Carries f fun c => routed c ls) ∧
    Fresh w

theorem Served.silent (served : Served threshold ops f) (silent : op.call = none)
    (server : g.server = f.server)
    (carries : ∀ {es}, Carries f es → Carries g es) : Served threshold (ops ++ [op]) g := by
  obtain ⟨ls, w, serves, same, before, fresh⟩ := served
  exact ⟨ls, w, serves.silent silent, same.trans server.symm, carries before, fresh⟩

theorem routed_received (c : ConnectionId) (ls ms : List Label) :
    routed c (ls ++ ([⟨k, client, .received⟩] ++ ms)) = routed c ls ++ routed c ms := by
  unfold routed
  rw [List.filterMap_append, List.filterMap_append]
  rfl

theorem Served.call (served : Served threshold ops f) (makes : op.call = some (client, begun))
    (finishes : ∀ {k w es}, Simulates k w es [] w f → Fresh w → w.calls k = begun →
      Finishes k w es g) : Served threshold (ops ++ [op]) g := by
  obtain ⟨ls, w, serves, server, carries, n, idle⟩ := served
  obtain ⟨ms, w', sim, done, fresh⟩ := finishes (w := w.goto n begun) (.nil carries server)
    (.goto ⟨n, idle⟩ n begun) (w.calls_goto_self n begun)
  refine ⟨_, w', serves.call makes (idle n le_rfl) sim.run sim.own done, sim.server, ?_, fresh⟩
  simp only [routed_received]
  exact sim.carries

theorem Finishes.keep (finishes : Finishes k w₀ es f) (server : g.server = f.server)
    (interfaces : g.interfaces = f.interfaces) (issued : g.issued = f.issued) :
    Finishes k w₀ es g := by
  obtain ⟨ms, w, sim, done, fresh⟩ := finishes
  exact ⟨ms, w, ⟨sim.run, sim.own, sim.server.trans server.symm,
    sim.carries.keep interfaces issued⟩, done, fresh⟩

theorem Served.resume (served : Served threshold ops f) : Served threshold ops f.resume := by
  obtain ⟨ls, w, serves, server, carries, fresh⟩ := served
  exact ⟨ls, w, serves, server, carries.keep rfl rfl, fresh⟩

theorem Served.discard (served : Served threshold ops f) (d : CallData) :
    Served threshold (ops ++ [.discard d]) (f.discard d) := by
  obtain ⟨address, tag⟩ := d
  cases tag with
  | readMessage client =>
    refine served.call rfl fun sim fresh h => ?_
    exact (sim.disconnect fresh h).keep rfl rfl rfl
  | connect | writeEvent | disconnect | wakeUp =>
    exact served.silent rfl rfl fun carries => carries.keep rfl rfl

theorem Served.process (served : Served threshold ops f) (d : CallData) (now now' : Int64)
    (data : List UInt8) :
    Served threshold (ops ++ [.process d now now' data]) (f.process d now now' data) := by
  obtain ⟨address, tag⟩ := d
  cases tag with
  | readMessage client =>
    refine served.call (g := f.process ⟨address, .readMessage client⟩ now now' data) rfl
      fun sim fresh h =>
        Finishes.keep (f := f.handleReadMessage now now' data client) ?_ rfl rfl rfl
    unfold Frontend.handleReadMessage
    split
    · rename_i short
      rw [if_pos short] at h
      exact sim.disconnect fresh h
    · rename_i long
      rw [if_neg long] at h
      exact sim.incoming fresh h now now'
  | writeEvent client =>
    refine served.silent rfl ?_ fun carries => carries.handleWriteEvent
    change (f.handleWriteEvent _ client).server = f.server
    unfold Frontend.handleWriteEvent
    dsimp only
    split <;> rfl
  | connect | disconnect | wakeUp =>
    exact served.silent rfl rfl fun carries => carries.keep rfl rfl

theorem Served.step (served : Served threshold ops f) (step : Step f op g) :
    Served threshold (ops ++ [op]) g := by
  cases step with
  | discard => exact served.resume.discard _
  | process => exact served.resume.process _ _ _ _
  | start | next | check | closeQueue | setShuttingDown | drained | shutdown | shutdownAgain
  | newWakeUp | setAlarm => exact served.silent rfl rfl fun carries => carries.keep rfl rfl

theorem served_initial (threshold : UInt64) : Served threshold [] (initial threshold) :=
  ⟨[], .initial threshold, .nil, rfl, ⟨fun _ => rfl, fun _ _ => rfl⟩, 0, fun _ _ => rfl⟩

/-- The loop is a refinement of the server with its calls, which it makes one after
the other, and of every stream. What has been asked of a stream and what waits is what
these calls have sent to it, once and in that order, whatever fails and whoever is
disconnected. -/
theorem refines (run : Run Step (initial threshold) ops f) :
    ∃ ls w, Serves threshold ops ls w ∧ Run Networking.Step (.initial threshold) ls w ∧
      w.server = f.server ∧ ∀ client, (∃ ops', Run Stream.Step {} ops' (f.view client)) ∧
        routed client ls = (f.view client).written ++ (f.interfaces client).queuedEvents := by
  obtain ⟨ls, w, serves, server, carries, -⟩ := run.history (P := Served threshold) (fun _ => True)
    (fun served _ step => served.step step) (served_initial threshold) (fun _ _ => trivial)
  exact ⟨ls, w, serves, serves.run, server,
    fun client => ⟨run_view run client, carries.order client⟩⟩

def reads (address : Nat) (client : ConnectionId) (m : Message) : List Op :=
  round ⟨address, .readMessage client⟩ 0 0 m.encode

def acquainting : List Op :=
  [.start] ++ round ⟨0, .connect 0⟩ 0 0 [] ++ reads 1 0 (.registerSelf 5 [97]) ++
    round ⟨0, .connect 1⟩ 0 0 [] ++ reads 2 1 (.registerSelf 6 [98]) ++
    reads 1 0 (.addPeer 6 [98]) ++ reads 1 0 (.combatEvent swing)

theorem run_acquainting : ∃ f, Run Step (initial 30000) acquainting f ∧
    (f.view 1).written = [⟨swing, 5⟩] := by
  have started : Run Step (initial 30000) [.start] (initial 30000).start := .snoc .nil (.start rfl)
  have connected := run_round ⟨0, .connect 0⟩ 0 0 [] started rfl (.head _) rfl
  have registered := run_round ⟨1, .readMessage 0⟩ 0 0 (Message.registerSelf 5 [97]).encode
    connected rfl (.head _) rfl
  have joined := run_round ⟨0, .connect 1⟩ 0 0 [] registered rfl (by decide) rfl
  have both := run_round ⟨2, .readMessage 1⟩ 0 0 (Message.registerSelf 6 [98]).encode joined rfl
    (by decide) rfl
  have listed := run_round ⟨1, .readMessage 0⟩ 0 0 (Message.addPeer 6 [98]).encode both rfl
    (by decide) rfl
  have swung := run_round ⟨1, .readMessage 0⟩ 0 0 (Message.combatEvent swing).encode listed rfl
    (by decide) rfl
  exact ⟨_, swung, rfl⟩

theorem refines_acquainting : ∃ f, Run Step (initial 30000) acquainting f ∧
    (f.view 1).written = [⟨swing, 5⟩] ∧
    ∃ ls w, Serves 30000 acquainting ls w ∧ Run Networking.Step (.initial 30000) ls w ∧
      w.server = f.server ∧ ∀ client, (∃ ops', Run Stream.Step {} ops' (f.view client)) ∧
        routed client ls = (f.view client).written ++ (f.interfaces client).queuedEvents := by
  obtain ⟨f, run, written⟩ := run_acquainting
  exact ⟨f, run, written, refines run⟩

end Simulation

end Frontend

end ArcdpsHealing.Networking
