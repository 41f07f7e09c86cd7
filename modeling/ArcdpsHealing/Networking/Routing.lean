import ArcdpsHealing.Networking.ServerInvariant

namespace ArcdpsHealing.Networking

open Arcdps Lib

namespace Label

def selfId (l : Label) : Option UInt16 :=
  match l.event with
  | .accepted (.registerSelf selfId _) => some selfId
  | .accepted (.setSelfId selfId) => some selfId
  | .accepted (.addPeer _ _) => none
  | .accepted (.removePeer _) => none
  | .accepted (.combatEvent _) => none
  | .received => none
  | .ignored => none
  | .rejected => none
  | .sent _ => none
  | .stamped => none
  | .disconnected _ => none

def send (l : Label) : Option Send :=
  match l.event with
  | .sent send => some send
  | .accepted _ => none
  | .received => none
  | .ignored => none
  | .rejected => none
  | .stamped => none
  | .disconnected _ => none

end Label

/-- The instance id in the most recent accepted `RegisterSelf` or `SetSelfId`
of a connection. -/
def lastSelfId (client : ConnectionId) (ls : List Label) : Option UInt16 :=
  (ls.filterMap fun l => if l.client = client then l.selfId else none).getLast?

def sendsOf (k : Nat) (ls : List Label) : List Send :=
  ls.filterMap fun l => if l.call = k then l.send else none

theorem lastSelfId_snoc (client : ConnectionId) (ls : List Label) (l : Label) :
    lastSelfId client (ls ++ [l]) =
      if l.client = client then l.selfId.or (lastSelfId client ls)
      else lastSelfId client ls := by
  unfold lastSelfId
  rw [List.filterMap_append]
  split
  · rename_i same
    cases id : l.selfId <;> simp [same, id]
  · rename_i other
    simp [other]

theorem sendsOf_snoc (k : Nat) (ls : List Label) (l : Label) :
    sendsOf k (ls ++ [l]) = sendsOf k ls ++ (if l.call = k then l.send else none).toList := by
  unfold sendsOf
  rw [List.filterMap_append]
  split
  · rename_i same
    cases send : l.send <;> simp [same, send]
  · rename_i other
    simp [other]

theorem sendsOf_append (k : Nat) (ls ms : List Label) :
    sendsOf k (ls ++ ms) = sendsOf k ls ++ sendsOf k ms :=
  List.filterMap_append

section Routes

variable {s s' : Server} (h : Consistent s) {client peer : ConnectionId}

theorem Server.route_eq_some {name : AccountName} {peerId : UInt16} :
    s.route (name, peerId) = some peer ↔
      ∃ entry, s.find name = some entry ∧ entry.client = peer ∧
        (s.connections peer).instanceId = peerId := by
  simp only [route]
  split
  · rename_i missing
    simp [missing]
  · rename_i entry found
    simp only [found]
    grind

theorem Server.mem_recipients : peer ∈ s.recipients client ↔
    ∃ name entry, (s.connections client).peers[name]? = some (s.connections peer).instanceId ∧
      s.find name = some entry ∧ entry.client = peer := by
  simp only [recipients, List.mem_filterMap, Prod.exists, Server.route_eq_some,
    Std.ExtTreeMap.mem_toList_iff_getElem?_eq_some]
  grind

include h in
theorem Consistent.nodup_recipients : (s.recipients client).Nodup := by
  refine List.Nodup.filterMap ?_ ?_
  · intro (name₁, id₁) (name₂, id₂) peer left right
    obtain ⟨entry₁, found₁, same₁, id₁⟩ := Server.route_eq_some.mp left
    obtain ⟨entry₂, found₂, same₂, id₂⟩ := Server.route_eq_some.mp right
    have names : name₁ = name₂ := h.registry.inj (h.mem_registry.mpr ⟨_, found₁, same₁⟩)
      (h.mem_registry.mpr ⟨_, found₂, same₂⟩)
    rw [names, ← id₁, ← id₂]
  · refine Std.ExtTreeMap.distinct_keys_toList.imp fun {a b} distinct same => distinct ?_
    rw [same]
    exact Std.ReflCmp.compare_self

end Routes

namespace Call

def Handled : Call → Prop
  | idle => False
  | incoming _ _ => False
  | sending _ _ => True
  | disconnecting _ _ => True
  | done => True

def Accepted : Call → Prop
  | idle => False
  | incoming _ _ => False
  | sending _ _ => True
  | disconnecting _ _ => False
  | done => True

def remaining : Call → List Send
  | idle => []
  | incoming _ _ => []
  | sending _ sends => sends
  | disconnecting _ _ => []
  | done => []

end Call

/-- What no combat event touches. -/
structure SameRegistrations (s s' : Server) : Prop where
  registeredAgents : s'.registeredAgents = s.registeredAgents
  iterator : ∀ client, (s'.connections client).iterator = (s.connections client).iterator
  instanceId : ∀ client, (s'.connections client).instanceId = (s.connections client).instanceId
  peers : ∀ client, (s'.connections client).peers = (s.connections client).peers

namespace SameRegistrations

theorem refl (s : Server) : SameRegistrations s s :=
  ⟨rfl, fun _ => rfl, fun _ => rfl, fun _ => rfl⟩

theorem stamp (s : Server) (now : Int64) (client : ConnectionId) :
    SameRegistrations s (s.stamp now client) := by
  constructor
  · rfl
  all_goals grind

end SameRegistrations

section Runs

variable {w w' : World} {l : Label} {ls : List Label} {client : ConnectionId} {k : Nat}
  {threshold : UInt64}

theorem selfId_step
    (known : ∀ client, (w.server.connections client).iterator.isSome = true →
      lastSelfId client ls = some (w.server.connections client).instanceId)
    (step : Step w l w') (registered : (w'.server.connections client).iterator.isSome = true) :
    lastSelfId client (ls ++ [l]) = some (w'.server.connections client).instanceId := by
  rw [lastSelfId_snoc]
  cases step with
  | accept now _ _ handled =>
    cases Server.handle_accepts handled <;> grind [Label.selfId]
  | stamp | disconnect => grind [Label.selfId]
  | receive | close | malformed | ignore | reject | send => grind [Label.selfId]

theorem handled_step (step : Step w l w') (handled : (w.calls k).Handled) :
    (w'.calls k).Handled ∧
      (if l.call = k then l.send else none).toList ++ (w'.calls k).remaining =
        (w.calls k).remaining := by
  cases step <;> grind [Call.Handled, Call.remaining, Label.send]

theorem unhandled_step (step : Step w l w') (later : ¬ (w'.calls k).Handled) :
    ¬ (w.calls k).Handled ∧ (if l.call = k then l.send else none) = none := by
  cases step <;> grind [Call.Handled, Label.send]

theorem accepted_step (step : Step w l w') (accepted : (w.calls k).Accepted) :
    (w'.calls k).Accepted ∧ (l.call = k → SameRegistrations w.server w'.server) := by
  cases step with
  | send => grind [Call.Accepted, SameRegistrations.refl]
  | stamp => grind [Call.Accepted, SameRegistrations.stamp]
  | receive | close | malformed | ignore | accept | reject | disconnect => grind [Call.Accepted]

theorem run_selfId (run : Run Step (.initial threshold) ls w)
    (registered : (w.server.connections client).iterator.isSome = true) :
    lastSelfId client ls = some (w.server.connections client).instanceId := by
  refine run.history (P := fun ls w => ∀ client,
    (w.server.connections client).iterator.isSome = true →
      lastSelfId client ls = some (w.server.connections client).instanceId)
    (fun _ => True) (fun known _ step client => selfId_step known step) ?_ (by simp)
    client registered
  simp [World.initial]

theorem run_unhandled (run : Run Step (.initial threshold) ls w) (later : ¬ (w.calls k).Handled) :
    sendsOf k ls = [] := by
  refine run.history (P := fun ls w => ¬ (w.calls k).Handled → sendsOf k ls = [])
    (fun _ => True) (fun ih _ step later => ?_) (fun _ => rfl) (by simp) later
  obtain ⟨before, none⟩ := unhandled_step step later
  rw [sendsOf_snoc, ih before, none]
  rfl

theorem run_handled (run : Run Step w ls w') (handled : (w.calls k).Handled) :
    (w'.calls k).Handled ∧ sendsOf k ls ++ (w'.calls k).remaining = (w.calls k).remaining := by
  refine run.history (P := fun ls w' => (w'.calls k).Handled ∧
      sendsOf k ls ++ (w'.calls k).remaining = (w.calls k).remaining)
    (fun _ => True) (fun ih _ step => ?_) ⟨handled, rfl⟩ (by simp)
  obtain ⟨after, account⟩ := handled_step step ih.1
  rw [sendsOf_snoc, List.append_assoc, account]
  exact ⟨after, ih.2⟩

theorem run_accepted (run : Run Step w ls w') (accepted : (w.calls k).Accepted) :
    (w'.calls k).Accepted :=
  run.invariant (P := fun w => (w.calls k).Accepted) (fun _ => True)
    (fun h _ step => (accepted_step step h).1) accepted (by simp)

theorem sending_run {sends : List Send} (call : w.calls k = .sending client sends) :
    ∃ ls w', Run Step w ls w' ∧ w'.server = w.server ∧ w'.calls k = .sending client [] := by
  induction sends generalizing w with
  | nil => exact ⟨[], w, .nil, rfl, call⟩
  | cons send sends ih =>
    obtain ⟨ls, w', run, same, call'⟩ := ih (w.calls_goto_self k (.sending client sends))
    exact ⟨_, w', (Run.snoc .nil (.send call)).trans run, same, call'⟩

theorem accepted_finishes (accepted : (w.calls k).Accepted) :
    ∃ ls w', Run Step w ls w' ∧ w'.calls k = .done := by
  cases call : w.calls k with
  | idle => rw [call] at accepted; cases accepted
  | incoming client data => rw [call] at accepted; cases accepted
  | disconnecting client errorMessage => rw [call] at accepted; cases accepted
  | done => exact ⟨[], w, .nil, call⟩
  | sending client sends =>
    obtain ⟨ls, w', run, -, sent⟩ := sending_run call
    exact ⟨_, _, run.snoc (.stamp 0 sent), World.calls_goto_self _ _ _⟩

theorem handler_step {data : List UInt8} {event : CbtEvent}
    (incoming : w.calls k = .incoming client data)
    (parsed : Message.parse data = .ok (some (.combatEvent event)))
    (step : Step w l w') (own : l.call = k) :
    w'.server = w.server ∧ (w'.calls k).Handled ∧ sendsOf k [l] = [] ∧
      ((w.server.connections client).iterator = none → l.event = .rejected ∧
        (w'.calls k).remaining = []) ∧
      ((w.server.connections client).iterator.isSome = true →
        l.event = .accepted (.combatEvent event) ∧ (w'.calls k).Accepted ∧
          (w'.calls k).remaining = w.server.sends client event) := by
  cases step with
  | accept now h parsed' handled =>
    cases own
    rw [incoming] at h
    cases h
    rw [parsed] at parsed'
    cases parsed'
    cases Server.handle_accepts handled with
    | combatEvent registered =>
      refine ⟨rfl, by simp [Call.Handled], by simp [sendsOf, Label.send], fun none => ?_,
        fun _ => ?_⟩
      · rw [none] at registered
        cases registered
      · simp [Call.Accepted, Call.remaining]
  | reject now h parsed' handled =>
    cases own
    rw [incoming] at h
    cases h
    rw [parsed] at parsed'
    cases parsed'
    refine ⟨rfl, by simp [Call.Handled], by simp [sendsOf, Label.send], fun _ => ?_,
      fun registered => ?_⟩
    · simp [Call.remaining]
    · rw [(Server.Accepts.combatEvent registered).handle] at handled
      cases handled
  | malformed h parsed' => grind
  | ignore h parsed' => grind
  | receive | close | send | stamp | disconnect => grind

/-- A combat event reaches the registered peers that the sender has listed with
the instance id they have, once each, and changes nothing else. -/
theorem combat_event_routing {before : List Label} {data : List UInt8} {event : CbtEvent}
    (run : Run Step (.initial threshold) before w) (incoming : w.calls k = .incoming client data)
    (parsed : Message.parse data = .ok (some (.combatEvent event))) :
    let s := w.server
    ((s.connections client).iterator = none → ∀ l w', Step w l w' → l.call = k →
      l.event = .rejected ∧ w'.server = s ∧
        ∀ after u, Run Step w' after u → sendsOf k (before ++ [l] ++ after) = []) ∧
    ((s.connections client).iterator.isSome = true →
      ∃ (recipients : List ConnectionId) (id : UInt16),
      recipients.Nodup ∧
      (∀ peer, peer ∈ recipients ↔ ∃ name entry,
        (s.connections client).peers[name]? = some (s.connections peer).instanceId ∧
          s.find name = some entry ∧ entry.client = peer) ∧
      lastSelfId client before = some id ∧
      ∀ l w', Step w l w' → l.call = k →
        l.event = .accepted (.combatEvent event) ∧ w'.server = s ∧
        ∀ after u, Run Step w' after u →
          sendsOf k (before ++ [l] ++ after) <+: recipients.map (⟨·, event, id⟩) ∧
          (u.calls k = .done →
            sendsOf k (before ++ [l] ++ after) = recipients.map (⟨·, event, id⟩)) ∧
          (∃ later v, Run Step u later v ∧ v.calls k = .done) ∧
          ∀ l v, Step u l v → l.call = k → SameRegistrations u.server v.server) := by
  have quiet : sendsOf k before = [] := run_unhandled run (by rw [incoming]; exact id)
  constructor
  · intro unregistered l w' step own
    obtain ⟨same, handled, silent, rejects, -⟩ := handler_step incoming parsed step own
    refine ⟨(rejects unregistered).1, same, fun after u later => ?_⟩
    have account := (run_handled later handled).2
    rw [(rejects unregistered).2, List.append_eq_nil_iff] at account
    rw [sendsOf_append, sendsOf_append, quiet, silent, account.1]
    rfl
  · intro registered
    refine ⟨w.server.recipients client, (w.server.connections client).instanceId,
      (initial_consistent run).nodup_recipients, fun peer => Server.mem_recipients,
      run_selfId run registered, fun l w' step own => ?_⟩
    obtain ⟨same, handled, silent, -, accepts⟩ := handler_step incoming parsed step own
    obtain ⟨seen, accepted, all⟩ := accepts registered
    refine ⟨seen, same, fun after u later => ?_⟩
    have account := (run_handled later handled).2
    have still := run_accepted later accepted
    rw [all] at account
    rw [sendsOf_append, sendsOf_append, quiet, silent, List.nil_append, List.nil_append]
    refine ⟨⟨_, account⟩, fun done => ?_, accepted_finishes still,
      fun l v step own => (accepted_step step still).2 own⟩
    rw [done] at account
    simpa [Call.remaining, Server.sends] using account

section Witness

def acquainted : World :=
  occupied.accept 1 1 (.registerSelf 6 [98])
    ((occupied.server.emplace [98] 1).register 1 ⟨[98], 1⟩ 6) []

def listed : World :=
  acquainted.accept 2 0 (.addPeer 6 [98])
    (acquainted.server.modify 0 fun x => { x with peers := x.peers.insert [98] 6 }) []

def swing : CbtEvent :=
  ⟨1, 2, 3, 4, 0, 0, 5, 5, 9, 0, 0, 1, 0, 0, 0, 0, 0, 0, 0, 0, 0, 0, 0, 0, 0, 0, 0⟩

def swung : World := listed.goto 3 (.incoming 0 (Message.combatEvent swing).encode)

theorem listed_run : Run Step (.initial 30000)
    [⟨0, 0, .received⟩, ⟨0, 0, .accepted (.registerSelf 5 [97])⟩, ⟨1, 1, .received⟩,
      ⟨1, 1, .accepted (.registerSelf 6 [98])⟩, ⟨2, 0, .received⟩,
      ⟨2, 0, .accepted (.addPeer 6 [98])⟩] listed := by
  have free : occupied.server.find [98] = none := by
    simp [occupied, World.accept, Server.find_emplace, World.initial]
    simp [Server.find]
  have second : Run Step (.initial 30000) _ acquainted :=
    accept_run occupied_run rfl (show [98].length < 256 by decide) 0 (.register rfl rfl free)
  exact accept_run second rfl (show [98].length < 256 by decide) 0 (.addPeer rfl)

theorem swung_run : Run Step (.initial 30000)
    [⟨0, 0, .received⟩, ⟨0, 0, .accepted (.registerSelf 5 [97])⟩, ⟨1, 1, .received⟩,
      ⟨1, 1, .accepted (.registerSelf 6 [98])⟩, ⟨2, 0, .received⟩,
      ⟨2, 0, .accepted (.addPeer 6 [98])⟩, ⟨3, 0, .received⟩] swung :=
  .snoc listed_run (.receive 0 _ rfl)

theorem combat_event_routing_swung :
    let s := swung.server
    let before : List Label := [⟨0, 0, .received⟩, ⟨0, 0, .accepted (.registerSelf 5 [97])⟩,
      ⟨1, 1, .received⟩, ⟨1, 1, .accepted (.registerSelf 6 [98])⟩, ⟨2, 0, .received⟩,
      ⟨2, 0, .accepted (.addPeer 6 [98])⟩, ⟨3, 0, .received⟩]
    ((s.connections 0).iterator = none → ∀ l w', Step swung l w' → l.call = 3 →
      l.event = .rejected ∧ w'.server = s ∧
        ∀ after u, Run Step w' after u → sendsOf 3 (before ++ [l] ++ after) = []) ∧
    ((s.connections 0).iterator.isSome = true → ∃ (recipients : List ConnectionId) (id : UInt16),
      recipients.Nodup ∧
      (∀ peer, peer ∈ recipients ↔ ∃ name entry,
        (s.connections 0).peers[name]? = some (s.connections peer).instanceId ∧
          s.find name = some entry ∧ entry.client = peer) ∧
      lastSelfId 0 before = some id ∧
      ∀ l w', Step swung l w' → l.call = 3 →
        l.event = .accepted (.combatEvent swing) ∧ w'.server = s ∧
        ∀ after u, Run Step w' after u →
          sendsOf 3 (before ++ [l] ++ after) <+: recipients.map (⟨·, swing, id⟩) ∧
          (u.calls 3 = .done →
            sendsOf 3 (before ++ [l] ++ after) = recipients.map (⟨·, swing, id⟩)) ∧
          (∃ later v, Run Step u later v ∧ v.calls 3 = .done) ∧
          ∀ l v, Step u l v → l.call = 3 → SameRegistrations u.server v.server) :=
  combat_event_routing swung_run rfl (Message.parse_encode _ trivial)

end Witness

end Runs

end ArcdpsHealing.Networking
