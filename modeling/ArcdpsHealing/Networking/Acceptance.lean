import ArcdpsHealing.Networking.Network

namespace ArcdpsHealing.Networking

open Arcdps Lib

def Message.Later (m : Message) : Prop := ¬ m.IsRegisterSelf ∧ m.Short

namespace Network

/-- The connection has lost its name to another one. -/
def Superseded (client : ConnectionId) (ls : List Label) : Prop :=
  ∃ l, .server l (some client) ∈ ls

/-- The server has disconnected the connection because its name was taken. -/
def Collided (client : ConnectionId) (ls : List Label) : Prop :=
  ∃ k s, .server ⟨k, client, .disconnected "account name collision"⟩ s ∈ ls

inductive Standing (ls : List Label) (w : World) (client : ConnectionId) : Prop
  | registered (registered : (w.server.connections client).iterator.isSome = true)
      (kept : ∀ k errorMessage, w.calls k ≠ .disconnecting client errorMessage)
  | superseded (lost : Superseded client ls)
  | colliding (refused : w.Only client (.disconnecting client "account name collision"))
  | collided (refused : Collided client ls)

inductive Working (w : World) (client : ConnectionId) : Prop
  | quiet (quiet : w.Quiet client)
  | incoming (m : Message) (only : w.Only client (.incoming client m.encode)) (later : m.Later)
  | sending (sends : List Send) (only : w.Only client (.sending client sends))
  | disconnecting (errorMessage : String)
      (only : w.Only client (.disconnecting client errorMessage))

inductive Phase (ls : List Label) (client : ConnectionId) (registeredInstanceId : UInt16)
    (inFlight : List Message) (reading : Bool) (w : World) : Prop
  | unregistered (fresh : (w.server.connections client).iterator = none)
      (online : (w.server.connections client).forceDisconnected = false)
      (quiet : w.Quiet client) (unsent : registeredInstanceId = 0) (nothing : inFlight = [])
  | announced (selfId : UInt16) (name : AccountName) (rest : List Message)
      (fresh : (w.server.connections client).iterator = none)
      (online : (w.server.connections client).forceDisconnected = false)
      (quiet : w.Quiet client) (sent : registeredInstanceId ≠ 0)
      (first : inFlight = .registerSelf selfId name :: rest)
      (short : name.length < 256) (later : ∀ m ∈ rest, m.Later)
  | registering (selfId : UInt16) (name : AccountName)
      (fresh : (w.server.connections client).iterator = none)
      (online : (w.server.connections client).forceDisconnected = false)
      (only : w.Only client (.incoming client (Message.registerSelf selfId name).encode))
      (sent : registeredInstanceId ≠ 0) (short : name.length < 256)
      (later : ∀ m ∈ inFlight, m.Later)
  | settled (standing : Standing ls w client) (working : Working w client)
      (sent : registeredInstanceId ≠ 0) (later : ∀ m ∈ inFlight, m.Later)
  | hungUp (ended : reading = false) (idle : ∀ k data, w.calls k ≠ .incoming client data)

structure Inv (mine : ConnectionId → Prop) (ls : List Label) (x : Network) : Prop where
  client : Client.Inv x.client
  consistent : Consistent x.world.server
  phase : ∀ d, mine d → Phase ls d (x.client.contexts d).registeredInstanceId (x.inFlight d)
    (x.reading d) x.world

section Phases

variable {ls : List Label} {d : ConnectionId} {registeredInstanceId : UInt16}
  {inFlight : List Message} {reading : Bool} {w w' : World}

theorem Superseded.snoc (h : Superseded d ls) (l : Label) : Superseded d (ls ++ [l]) := by
  obtain ⟨l', mem⟩ := h
  exact ⟨l', by simp [mem]⟩

theorem Collided.snoc (h : Collided d ls) (l : Label) : Collided d (ls ++ [l]) := by
  obtain ⟨k, s, mem⟩ := h
  exact ⟨k, s, by simp [mem]⟩

theorem Standing.snoc (h : Standing ls w d) (l : Label) : Standing (ls ++ [l]) w d := by
  cases h with
  | registered registered kept => exact .registered registered kept
  | superseded lost => exact .superseded (lost.snoc l)
  | colliding refused => exact .colliding refused
  | collided refused => exact .collided (refused.snoc l)

theorem Phase.snoc (h : Phase ls d registeredInstanceId inFlight reading w) (l : Label) :
    Phase (ls ++ [l]) d registeredInstanceId inFlight reading w := by
  cases h with
  | unregistered fresh online quiet unsent nothing =>
    exact .unregistered fresh online quiet unsent nothing
  | announced selfId name rest fresh online quiet sent first short later =>
    exact .announced selfId name rest fresh online quiet sent first short later
  | registering selfId name fresh online only sent short later =>
    exact .registering selfId name fresh online only sent short later
  | settled standing working sent later => exact .settled (standing.snoc l) working sent later
  | hungUp ended idle => exact .hungUp ended idle

theorem Phase.send (h : Phase ls d registeredInstanceId inFlight reading w) (l : Label)
    {m : Message} {id : UInt16} (short : m.Short) (told : id ≠ 0)
    (registers : m.IsRegisterSelf ↔ registeredInstanceId = 0) :
    Phase (ls ++ [l]) d id (inFlight ++ [m]) reading w := by
  cases h with
  | unregistered fresh online quiet unsent nothing =>
    subst nothing
    cases m with
    | registerSelf selfId name =>
      exact .announced selfId name [] fresh online quiet told rfl short (by simp)
    | setSelfId | addPeer | removePeer | combatEvent => exact (registers.mpr unsent).elim
  | announced selfId name rest fresh online quiet sent first short' later =>
    subst first
    refine .announced selfId name (rest ++ [m]) fresh online quiet told rfl short' ?_
    simpa [or_imp, forall_and] using ⟨later, fun first => sent (registers.mp first), short⟩
  | registering selfId name fresh online only sent short' later =>
    refine .registering selfId name fresh online only told short' ?_
    simpa [or_imp, forall_and] using ⟨later, fun first => sent (registers.mp first), short⟩
  | settled standing working sent later =>
    refine .settled (standing.snoc l) working told ?_
    simpa [or_imp, forall_and] using ⟨later, fun first => sent (registers.mp first), short⟩
  | hungUp ended idle => exact .hungUp ended idle

theorem Phase.receive {m : Message} {rest : List Message} {k : Nat}
    (h : Phase ls d registeredInstanceId (m :: rest) true w) (l : Label) (quiet : w.Quiet d) :
    Phase (ls ++ [l]) d registeredInstanceId rest true (w.goto k (.incoming d m.encode)) := by
  have only {call : Call} : (w.goto k call).Only d call :=
    World.only_goto fun j on => absurd on (quiet j)
  cases h with
  | unregistered fresh online quiet unsent nothing => cases nothing
  | announced selfId name rest fresh online quiet sent first short later =>
    cases first
    exact .registering selfId name fresh online only sent short later
  | registering selfId name fresh online only' sent short later =>
    obtain ⟨k, here, -⟩ := only'
    exact absurd (by rw [here]; exact rfl) (quiet k)
  | settled standing working sent later =>
    have standing' : Standing (ls ++ [l]) (w.goto k (.incoming d m.encode)) d := by
      cases standing with
      | registered registered kept => exact .registered registered (by grind)
      | superseded lost => exact .superseded (lost.snoc l)
      | colliding refused =>
        obtain ⟨k, here, -⟩ := refused
        exact absurd (by rw [here]; exact rfl) (quiet k)
      | collided refused => exact .collided (refused.snoc l)
    exact .settled standing' (.incoming m only (later m (.head _))) sent
      fun m mem => later m (.tail _ mem)
  | hungUp ended idle => cases ended

theorem phase_hangUp {errorMessage : String} {k : Nat} (quiet : w.Quiet d) :
    Phase ls d registeredInstanceId inFlight false (w.goto k (.disconnecting d errorMessage)) := by
  refine .hungUp rfl fun j data here => ?_
  rw [World.calls_goto] at here
  split at here
  · cases here
  · exact quiet j (by rw [here]; exact rfl)

theorem Phase.foreign (h : Phase ls d registeredInstanceId inFlight reading w)
    {l : Networking.Label} (consistent : Consistent w.server) (step : Networking.Step w l w')
    (foreign : l.client ≠ d) :
    Phase (ls ++ [.server l (w.superseded l)]) d registeredInstanceId inFlight reading w' := by
  have same := connections_foreign step foreign
  have unlost : (w.server.connections d).iterator = none → w.superseded l ≠ some d := by
    intro fresh lost
    have registered := consistent.superseded lost
    rw [fresh] at registered
    cases registered
  cases h with
  | unregistered fresh online quiet unsent nothing =>
    have kept := same.resolve_right (unlost fresh)
    exact .unregistered (kept.1.trans fresh) (kept.2.trans online) (quiet.foreign step foreign)
      unsent nothing
  | announced selfId name rest fresh online quiet sent first short later =>
    have kept := same.resolve_right (unlost fresh)
    exact .announced selfId name rest (kept.1.trans fresh) (kept.2.trans online)
      (quiet.foreign step foreign) sent first short later
  | registering selfId name fresh online only sent short later =>
    have kept := same.resolve_right (unlost fresh)
    exact .registering selfId name (kept.1.trans fresh) (kept.2.trans online)
      (only.foreign rfl step foreign) sent short later
  | settled standing working sent later =>
    refine .settled ?_ ?_ sent later
    · cases standing with
      | registered registered kept =>
        cases same with
        | inl same =>
          refine .registered (by rwa [same.1]) fun k errorMessage here => ?_
          exact kept k errorMessage ((calls_foreign step foreign k (by exact rfl)).mp here)
        | inr lost => exact .superseded ⟨l, by simp [lost]⟩
      | superseded lost => exact .superseded (lost.snoc _)
      | colliding refused => exact .colliding (refused.foreign rfl step foreign)
      | collided refused => exact .collided (refused.snoc _)
    · cases working with
      | quiet quiet => exact .quiet (quiet.foreign step foreign)
      | incoming m only later => exact .incoming m (only.foreign rfl step foreign) later
      | sending sends only => exact .sending sends (only.foreign rfl step foreign)
      | disconnecting errorMessage only =>
        exact .disconnecting errorMessage (only.foreign rfl step foreign)
  | hungUp ended idle =>
    exact .hungUp ended fun k data here =>
      idle k data ((calls_foreign step foreign k (by exact rfl)).mp here)

theorem Standing.advance (h : Standing ls w d) {l : Label}
    (registered : (w.server.connections d).iterator.isSome = true →
      (∀ k errorMessage, w.calls k ≠ .disconnecting d errorMessage) → Standing (ls ++ [l]) w' d)
    (colliding : w.Only d (.disconnecting d "account name collision") →
      Standing (ls ++ [l]) w' d) : Standing (ls ++ [l]) w' d := by
  cases h with
  | registered is kept => exact registered is kept
  | superseded lost => exact .superseded (lost.snoc l)
  | colliding refused => exact colliding refused
  | collided refused => exact .collided (refused.snoc l)

theorem phase_registering {l : Networking.Label} {selfId : UInt16} {name : AccountName}
    (fresh : (w.server.connections d).iterator = none)
    (online : (w.server.connections d).forceDisconnected = false)
    (only : w.Only d (.incoming d (Message.registerSelf selfId name).encode))
    (sent : registeredInstanceId ≠ 0) (short : name.length < 256)
    (later : ∀ m ∈ inFlight, m.Later) (step : Networking.Step w l w') (own : l.client = d)
    (busy : l.event ≠ .received) (s : Option ConnectionId) :
    Phase (ls ++ [.server l s]) d registeredInstanceId inFlight reading w' := by
  obtain ⟨here, others⟩ := only.own step own busy
  have parses := Message.parse_encode (.registerSelf selfId name) short
  obtain ⟨now, ⟨_, sends, handled, rfl⟩ | ⟨errorMessage, handled, rfl⟩⟩ :=
    step_incoming step busy here parses
  · refine .settled (.registered ?_ ?_) (.sending sends (World.only_goto others)) sent later
    · exact (Server.handle_accepts handled).isSome_iterator
    · exact fun j e => (World.only_goto others).ne nofun
  · cases Server.handle_registerSelf fresh online selfId name now with
    | inl accepted =>
      obtain ⟨result, accepted⟩ := accepted
      cases handled.symm.trans accepted
    | inr collision =>
      cases handled.symm.trans collision
      exact .settled (.colliding (World.only_goto others))
        (.disconnecting _ (World.only_goto others)) sent later

theorem phase_settled {l : Networking.Label} (standing : Standing ls w d) (working : Working w d)
    (sent : registeredInstanceId ≠ 0) (later : ∀ m ∈ inFlight, m.Later)
    (step : Networking.Step w l w') (own : l.client = d) (busy : l.event ≠ .received)
    (s : Option ConnectionId) :
    Phase (ls ++ [.server l s]) d registeredInstanceId inFlight reading w' := by
  cases working with
  | quiet quiet => exact absurd (own ▸ on_calls step busy) (quiet l.call)
  | incoming m only proper =>
    obtain ⟨here, others⟩ := only.own step own busy
    have working : ¬ w.Only d (.disconnecting d "account name collision") :=
      fun refused => nomatch only.unique refused rfl
    obtain ⟨now, ⟨_, sends, handled, rfl⟩ | ⟨errorMessage, handled, rfl⟩⟩ :=
      step_incoming step busy here (Message.parse_encode m proper.2)
    · refine .settled ?_ (.sending sends (World.only_goto others)) sent later
      refine standing.advance (fun _ _ => ?_) fun refused => absurd refused working
      exact .registered (Server.handle_accepts handled).isSome_iterator
        fun j e => (World.only_goto others).ne nofun
    · refine .settled ?_ (.disconnecting _ (World.only_goto others)) sent later
      refine standing.advance (fun registered _ => ?_) fun refused => absurd refused working
      obtain ⟨result, accepted⟩ := Server.handle_registered registered proper.1 now
      cases handled.symm.trans accepted
  | sending sends only =>
    obtain ⟨here, others⟩ := only.own step own busy
    have working : ¬ w.Only d (.disconnecting d "account name collision") :=
      fun refused => nomatch only.unique refused rfl
    obtain ⟨rest, rfl⟩ | ⟨now, rfl⟩ := step_sending step busy here
    · refine .settled ?_ (.sending rest (World.only_goto others)) sent later
      refine standing.advance (fun registered _ => ?_) fun refused => absurd refused working
      exact .registered registered fun j e => (World.only_goto others).ne nofun
    · have quiet : ((w.setServer (w.server.stamp now d)).goto l.call .done).Quiet d :=
        World.quiet_goto others nofun
      refine .settled ?_ (.quiet quiet) sent later
      refine standing.advance (fun registered _ => ?_) fun refused => absurd refused working
      refine .registered ?_ fun j e here => quiet j (by rw [here]; exact rfl)
      simpa [Server.connections_stamp] using registered
  | disconnecting errorMessage only =>
    obtain ⟨here, others⟩ := only.own step own busy
    obtain ⟨label, rfl⟩ := step_disconnecting step busy here
    have quiet : ((w.setServer (w.server.forceDisconnect d)).goto l.call .done).Quiet d :=
      World.quiet_goto others nofun
    refine .settled ?_ (.quiet quiet) sent later
    refine standing.advance (fun _ kept => absurd here (kept _ errorMessage)) fun refused => ?_
    cases only.unique refused rfl
    rw [label]
    exact .collided ⟨_, s, List.mem_append_right _ (.head _)⟩

theorem Phase.own {l : Networking.Label}
    (h : Phase ls d registeredInstanceId inFlight reading w) (step : Networking.Step w l w')
    (own : l.client = d) (busy : l.event ≠ .received) (s : Option ConnectionId) :
    Phase (ls ++ [.server l s]) d registeredInstanceId inFlight reading w' := by
  cases h with
  | unregistered fresh online quiet unsent nothing =>
    exact absurd (own ▸ on_calls step busy) (quiet l.call)
  | announced selfId name rest fresh online quiet sent first short later =>
    exact absurd (own ▸ on_calls step busy) (quiet l.call)
  | registering selfId name fresh online only sent short later =>
    exact phase_registering fresh online only sent short later step own busy s
  | settled standing working sent later =>
    exact phase_settled standing working sent later step own busy s
  | hungUp ended idle =>
    exact .hungUp ended fun k data here => idle k data (incoming_before step busy here)

end Phases

section Runs

variable {c : Enums} {mine : ConnectionId → Prop} {x y : Network} {ls : List Label} {l : Label}
  {threshold : UInt64}

theorem inv_initial (threshold : UInt64) : Inv mine [] (initial threshold) :=
  ⟨Client.inv_initial, .fresh threshold,
    fun _ _ => .unregistered rfl rfl (fun _ => id) rfl rfl⟩

theorem inFlight_follow (x : Network) (l : Client.Label) (z : Client) (d : ConnectionId) :
    (x.follow l z).inFlight d = x.inFlight d ++ (Client.emitted d [l]).map (·.2) := rfl

theorem Phase.follow {d : ConnectionId} {l : Client.Label} {z : Client} (inv : Client.Inv x.client)
    (h : Phase ls d (x.client.contexts d).registeredInstanceId (x.inFlight d) (x.reading d) x.world)
    (step : Client.Step c x.client l z) :
    Phase (ls ++ [.client l]) d (z.contexts d).registeredInstanceId ((x.follow l z).inFlight d)
      (x.reading d) x.world := by
  rw [inFlight_follow]
  cases l with
  | internal | completed | opened =>
    rw [Client.registered_step inv step (fun _ => rfl) d]
    simpa [Client.emitted] using h.snoc _
  | sent context instanceId m =>
    cases step with
    | @sendEvent _ _ data here fits =>
      obtain ⟨ready, -, heard, proper, due⟩ := inv.stands here
      by_cases same : d = context
      · subst same
        have told : (data.message (x.client.contexts d).registeredInstanceId).2 ≠ 0 := by
          rwa [due.told]
        simpa [Client.emitted, Client.sendEvent, Client.enqueue, Client.contexts_modify] using
          h.send _ (data.short_message fits _) told (due.registers proper)
      · simpa [Client.emitted, Client.sendEvent, Client.enqueue, Client.contexts_modify, same,
          Ne.symm same] using h.snoc _

theorem inv_step (h : Inv mine ls x) (step : Step c mine x l y) : Inv mine (ls ++ [l]) y := by
  obtain ⟨client, consistent, phase⟩ := h
  cases step with
  | client step own =>
    exact ⟨Client.inv_step client step, consistent, fun d mine => (phase d mine).follow client step⟩
  | @receive k e m rest own next quiet reading unused =>
    refine ⟨client, consistent, fun d mine => ?_⟩
    by_cases same : d = e
    · subst same
      have before := phase d mine
      rw [next, reading] at before
      simpa [Network.receive, reading] using before.receive _ quiet
    · have foreign := (phase d mine).foreign consistent (.receive e m.encode unused) (Ne.symm same)
      simpa [Network.receive, World.superseded, same] using foreign
  | @hangUp k e own quiet reading unused =>
    refine ⟨client, consistent, fun d mine => ?_⟩
    by_cases same : d = e
    · subst same
      simpa [Network.hangUp] using phase_hangUp quiet
    · have foreign := (phase d mine).foreign consistent
        (.close e "shutdown by client" unused) (Ne.symm same)
      simpa [Network.hangUp, World.superseded, same] using foreign
  | @server l w step handles =>
    refine ⟨client, consistent_step consistent step, fun d mine => ?_⟩
    by_cases own : l.client = d
    · exact (phase d mine).own step own (handles (own ▸ mine)) _
    · exact (phase d mine).foreign consistent step own

theorem run_inv (run : Run (Step c mine) (initial threshold) ls x) : Inv mine ls x :=
  run.history (P := Inv mine) (fun _ => True) (fun h _ step => inv_step h step)
    (inv_initial threshold) (by simp)

theorem run_incoming (run : Run (Step c mine) (initial threshold) ls x) {d : ConnectionId}
    (own : mine d) {k : Nat} {data : List UInt8} (incoming : x.world.calls k = .incoming d data) :
    ∃ m, (x.read d).getLast? = some m ∧ data = m.encode := by
  induction run generalizing k data with
  | nil => cases incoming
  | @snoc ls y l z _ step ih =>
    cases step with
    | client step own => exact ih incoming
    | @receive j e m rest own' next quiet reading unused =>
      simp only [Network.receive, World.calls_goto] at incoming ⊢
      split at incoming
      · cases incoming
        exact ⟨m, by simp, rfl⟩
      · have other : d ≠ e := by
          rintro rfl
          exact quiet k (by rw [incoming]; exact rfl)
        simpa [other] using ih incoming
    | hangUp own' quiet reading unused =>
      simp only [Network.hangUp, World.calls_goto] at incoming
      split at incoming
      · cases incoming
      · exact ih incoming
    | @server l w step handles =>
      have before : y.world.calls k = .incoming d data := by
        by_cases same : l.client = d
        · exact incoming_before step (handles (same ▸ own)) incoming
        · exact (calls_foreign step same k (by exact rfl)).mp incoming
      exact ih before

theorem Phase.outcome {d : ConnectionId} {registeredInstanceId : UInt16} {inFlight : List Message}
    {reading : Bool} {w : World} (h : Phase ls d registeredInstanceId inFlight reading w) {k : Nat}
    {data : List UInt8} (incoming : w.calls k = .incoming d data) :
    ∃ m, Message.parse data = .ok (some m) ∧ ∀ now,
      (∃ result, w.server.handle now d m = .ok result) ∨
      (m.IsRegisterSelf ∧ w.server.handle now d m = .error "account name collision") ∨
      Superseded d ls ∨ Collided d ls := by
  have on : (w.calls k).On d := by
    rw [incoming]
    exact rfl
  cases h with
  | unregistered fresh online quiet unsent nothing => exact absurd on (quiet k)
  | announced selfId name rest fresh online quiet sent first short later =>
    exact absurd on (quiet k)
  | registering selfId name fresh online only sent short later =>
    cases (only.eq on).symm.trans incoming
    refine ⟨.registerSelf selfId name, Message.parse_encode _ short, fun now => ?_⟩
    cases Server.handle_registerSelf fresh online selfId name now with
    | inl accepted => exact .inl accepted
    | inr collision => exact .inr (.inl ⟨trivial, collision⟩)
  | settled standing working sent later =>
    cases working with
    | quiet quiet => exact absurd on (quiet k)
    | incoming m only proper =>
      cases (only.eq on).symm.trans incoming
      refine ⟨m, Message.parse_encode m proper.2, fun now => ?_⟩
      cases standing with
      | registered registered kept => exact .inl (Server.handle_registered registered proper.1 now)
      | superseded lost => exact .inr (.inr (.inl lost))
      | colliding refused => cases only.unique refused rfl
      | collided refused => exact .inr (.inr (.inr refused))
    | sending sends only => cases (only.eq on).symm.trans incoming
    | disconnecting errorMessage only => cases (only.eq on).symm.trans incoming
  | hungUp ended idle => exact absurd incoming (idle k data)

/-- A connection of the client in every reachable state: what is emitted on it
conforms, one write is outstanding at most and no assertion fails. The server
reads what was emitted in order and accepts it, unless the name is taken when
the connection registers or it has disconnected the connection for that or for
a newer one. -/
theorem session_conformance (run : Run (Step c mine) (initial threshold) ls x) {d : ConnectionId}
    (own : mine d) :
    let sent := Client.emitted d (clientLabels ls)
    Conforms sent ∧
    (∀ first rest, sent = first :: rest →
      first.2.IsRegisterSelf ∧ ∀ p ∈ rest, ¬ p.2.IsRegisterSelf) ∧
    x.client.queue.countP (Tag.writes d) ≤ 1 ∧
    x.client.position ≠ .assertFailed ∧
    x.read d ++ x.inFlight d = sent.map (·.2) ∧
    ∀ k data, x.world.calls k = .incoming d data →
      ∃ m, (x.read d).getLast? = some m ∧ Message.parse data = .ok (some m) ∧ ∀ now,
        (∃ result, x.world.server.handle now d m = .ok result) ∨
        (m.IsRegisterSelf ∧ x.world.server.handle now d m = .error "account name collision") ∨
        Superseded d ls ∨ Collided d ls := by
  have inv := run_inv run
  have conforms := (Client.run_told (run_client run) d).1
  have order := run_read run d
  refine ⟨conforms, fun first rest begins => ?_, ?_, fun failed => inv.client.stands failed,
    order, ?_⟩
  · cases conforms.once with
    | inl nothing => cases nothing.1.symm.trans begins
    | inr something =>
      obtain ⟨-, first', rest', begins', registers, others⟩ := something
      cases begins'.symm.trans begins
      exact ⟨registers, others⟩
  · rw [inv.client.writes d]
    split
    · exact Nat.le_refl 1
    · exact Nat.zero_le 1
  · intro k data incoming
    obtain ⟨m, last, rfl⟩ := run_incoming run own incoming
    obtain ⟨m', parsed, outcome⟩ := (inv.phase d own).outcome incoming
    have mem : m ∈ (Client.emitted d (clientLabels ls)).map (·.2) := by
      rw [← order]
      exact List.mem_append_left _ (List.mem_of_getLast? last)
    obtain ⟨p, emitted, same⟩ := List.mem_map.mp mem
    have short := Client.run_short (run_client run) d p emitted
    rw [same] at short
    cases parsed.symm.trans (Message.parse_encode m short)
    exact ⟨m, last, parsed, outcome⟩

end Runs

section Witness

def bystander : Ag := ⟨some [98], 1, 1, 0, 0, 0⟩

def self (id : UInt64) : Ag := ⟨some [97], id, 1, 0, 1, 0⟩

theorem properSelf_self (id : UInt64) (nonzero : id.toUInt16 ≠ 0) :
    Client.ProperSelf bystander (self id) :=
  fun _ _ _ => ⟨nonzero, by simp [self], by simp [self]⟩

def collision : List Label :=
  [.server ⟨0, 0, .received⟩ none, .server ⟨0, 0, .accepted (.registerSelf 5 [97])⟩ none,
    .client .internal, .client .internal, .client (.opened 1),
    .client (.completed ⟨.connect, 1⟩ true), .client .internal, .client .internal,
    .client (.sent 1 6 (.registerSelf 6 [97])),
    .client (.completed ⟨.registerSelf, 1⟩ true), .client .internal, .client .internal,
    .client .internal, .client (.sent 1 7 (.setSelfId 7)),
    .server ⟨1, 1, .received⟩ none, .server ⟨1, 1, .rejected⟩ none,
    .server ⟨1, 1, .disconnected "account name collision"⟩ none, .server ⟨2, 1, .received⟩ none]

theorem collision_run : ∃ x, Run (Step Enums.documented (· = 1)) (initial 30000) collision x ∧
    x.world.calls 2 = .incoming 1 (Message.setSelfId 7).encode ∧
    x.world.server.handle 0 1 (.setSelfId 7) = .error "not registered yet" := by
  have free : (World.initial 30000).server.find [97] = none := by
    simp [World.initial, Server.find]
  have fits : [97].length < 256 := by decide
  have r0 : Run (Step Enums.documented (· = 1)) (initial 30000) [] (initial 30000) := .nil
  have r1 := r0.snoc
    (.server (@Networking.Step.receive _ 0 0 (Message.registerSelf 5 [97]).encode rfl)
    (by decide))
  have r2 := r1.snoc (.server (.accept 0 (World.calls_goto_self _ 0 _)
    (Message.parse_encode (.registerSelf 5 [97]) fits)
    (Server.Accepts.handle (.register rfl rfl free))) (by simp))
  -- the client learns of itself, connects and registers
  have r3 := r2.snoc (.client (.localAgent (properSelf_self 6 (by decide))) (by simp))
  have r4 := r3.snoc (.client (.timeout rfl) (by simp))
  have r5 := r4.snoc (.client (@Client.Step.connect _ _ 1 rfl rfl List.not_mem_nil) (by simp))
  have r6 := r5.snoc
    (.client (@Client.Step.gotEvent _ _ ⟨.connect, 1⟩ true [] rfl (.head _)) (by simp))
  have r7 := r6.snoc (.client (@Client.Step.send _ _ 1 rfl rfl) (by simp))
  have r8 := r7.snoc (.client (@Client.Step.checkSelf _ _ 1 rfl) (by simp))
  have r9 := r8.snoc
    (.client (@Client.Step.sendEvent _ _ 1 6 (.registerSelf 6 [97]) rfl rfl) (by simp))
  have r10 := r9.snoc
    (.client (@Client.Step.gotEvent _ _ ⟨.registerSelf, 1⟩ true [] rfl (.head _)) (by simp))
  -- it changes instances before the server has looked at that
  have r11 := r10.snoc (.client (.localAgent (properSelf_self 7 (by decide))) (by simp))
  have r12 := r11.snoc (.client (@Client.Step.send _ _ 1 rfl rfl) (by simp))
  have r13 := r12.snoc (.client (@Client.Step.checkSelf _ _ 1 rfl) (by simp))
  have r14 := r13.snoc
    (.client (@Client.Step.sendEvent _ _ 1 7 (.registerSelf 7 [97]) rfl rfl) (by simp))
  -- the server reads the first message and refuses it, then it reads the second
  have quiet (k : Nat) : ¬ (if k = 0 then Call.sending 0 [] else .idle).On 1 := by
    split
    · simp [Call.On]
    · exact id
  have r15 := r14.snoc (@Step.receive _ _ _ 1 1 (.registerSelf 6 [97]) [.setSelfId 7] rfl rfl
    (fun k => by simpa [initial, World.initial, follow, World.goto, World.setServer,
      Function.update_apply] using quiet k) rfl rfl)
  have r16 := r15.snoc (.server (.reject 0 (World.calls_goto_self _ 1 _)
    (Message.parse_encode (.registerSelf 6 [97]) fits) rfl) (by simp))
  have r17 := r16.snoc (.server (.disconnect (World.calls_goto_self _ 1 _)) (by simp))
  have r18 := r17.snoc (@Step.receive _ _ _ 2 1 (.setSelfId 7) [] rfl rfl
    (World.quiet_goto (fun k on => by
      by_contra other
      simp [initial, World.initial, Network.receive, follow, World.goto, World.setServer,
        Function.update_apply, other] at on
      exact quiet k on) id) rfl rfl)
  exact ⟨_, r18, rfl, rfl⟩

/-- A message that is no `RegisterSelf` is refused on a connection that was
never superseded. -/
theorem rejected_after_collision :
    ∃ x, Run (Step Enums.documented (· = 1)) (initial 30000) collision x ∧
      x.world.calls 2 = .incoming 1 (Message.setSelfId 7).encode ∧
      x.world.server.handle 0 1 (.setSelfId 7) = .error "not registered yet" ∧
      ¬ (Message.setSelfId 7).IsRegisterSelf ∧ ¬ Superseded 1 collision := by
  obtain ⟨x, run, incoming, refused⟩ := collision_run
  exact ⟨x, run, incoming, refused, id, by simp [Superseded, collision]⟩

theorem session_conformance_collision : ∃ x : Network,
    let sent := Client.emitted 1 (clientLabels collision)
    Conforms sent ∧
    (∀ first rest, sent = first :: rest →
      first.2.IsRegisterSelf ∧ ∀ p ∈ rest, ¬ p.2.IsRegisterSelf) ∧
    x.client.queue.countP (Tag.writes 1) ≤ 1 ∧
    x.client.position ≠ .assertFailed ∧
    x.read 1 ++ x.inFlight 1 = sent.map (·.2) ∧
    ∀ k data, x.world.calls k = .incoming 1 data →
      ∃ m, (x.read 1).getLast? = some m ∧ Message.parse data = .ok (some m) ∧ ∀ now,
        (∃ result, x.world.server.handle now 1 m = .ok result) ∨
        (m.IsRegisterSelf ∧ x.world.server.handle now 1 m = .error "account name collision") ∨
        Superseded 1 collision ∨ Collided 1 collision := by
  obtain ⟨x, run, -⟩ := collision_run
  exact ⟨x, session_conformance run rfl⟩

end Witness

end Network

end ArcdpsHealing.Networking
