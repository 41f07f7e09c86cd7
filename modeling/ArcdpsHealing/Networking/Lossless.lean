import ArcdpsHealing.Networking.EndToEnd
import ArcdpsHealing.Networking.QueuedEvents

namespace ArcdpsHealing.Networking

open Arcdps Lib

section Events

variable {data : List UInt8} {event : CbtEvent}

theorem meant_eq_some :
    meant data = some event ↔ Message.parse data = .ok (some (.combatEvent event)) := by
  unfold meant
  split
  · rename_i e parsed
    rw [parsed]
    simp
  · rename_i other parsed
    rw [parsed]
    refine iff_of_false (by rintro ⟨⟩) fun same => ?_
    exact other event (Except.ok.inj same)
  · rename_i parsed
    rw [parsed]
    exact iff_of_false (by rintro ⟨⟩) (by rintro ⟨⟩)

theorem meant_encode {m : Message} (short : m.Short) : meant m.encode = m.event := by
  unfold meant
  rw [Message.parse_encode m short]
  cases m <;> rfl

end Events

namespace Frontend

variable {f : Frontend} {data : List UInt8} {client c : ConnectionId}
  {event : CbtEvent} {now : Int64}

theorem accepted_combatEvent (told : meant data = some event)
    (registered : (f.server.connections client).iterator.isSome = true) :
    f.accepted now data client = f.server.sends client event := by
  have handled : f.server.handle now client (.combatEvent event) =
      .ok (f.server, f.server.sends client event) := by
    have sends : f.server.handleCombatEvent event client = .ok (f.server.sends client event) :=
      Server.ifRegistered_eq_ok.mpr ⟨registered, rfl⟩
    unfold Server.handle
    dsimp only
    rw [sends]
    rfl
  unfold accepted
  rw [meant_eq_some.mp told]
  dsimp only
  rw [handled]

theorem accepted_eq_sends (f : Frontend) (now : Int64) (data : List UInt8)
    (client : ConnectionId) :
    f.accepted now data client = [] ∨
      ∃ event, meant data = some event ∧
        f.accepted now data client = f.server.sends client event := by
  -- Whatever is passed on is an event, goes to a peer of the sender and comes with its instance
  -- id.
  have handles := handleReadMessage_handles f now now data client
  generalize f.accepted now data client = sends at handles
  generalize f.handleReadMessage now now data client = g at handles
  cases handles with
  | ignored => exact .inl rfl
  | rejected => exact .inl rfl
  | accepted parsed accepts =>
    cases accepts with
    | combatEvent registered => exact .inr ⟨_, meant_eq_some.mpr parsed, rfl⟩
    | register | takeOver | setSelfId | addPeer | removePeer => exact .inl rfl

theorem mem_toward_sends {e : CombatEvent}
    (mem : e ∈ (f.server.sends client event).filterMap (Send.toward c)) :
    c ∈ f.server.recipients client ∧
      e.senderInstanceId = (f.server.connections client).instanceId := by
  have same : (f.server.sends client event).filterMap (Send.toward c) =
      List.replicate ((f.server.recipients client).count c)
        ⟨event, (f.server.connections client).instanceId⟩ := toward_sends _ _ _ c
  rw [same] at mem
  obtain ⟨some, rfl⟩ := List.mem_replicate.mp mem
  exact ⟨List.count_pos_iff.mp (Nat.pos_of_ne_zero some), rfl⟩

end Frontend

namespace System

structure Connected (a b : ConnectionId) (i : UInt16) (f : Frontend) : Prop where
  registered : (f.server.connections a).iterator.isSome = true
  instanceId : (f.server.connections a).instanceId = i
  recipient : b ∈ f.server.recipients a

/-- An event of `a` is read when the server passes it on to `b`, and nobody else
sends to `b` with the instance id of `a`. -/
structure Passes (a b : ConnectionId) (i : UInt16) (s : System) (op : Op) : Prop where
  own : ∀ {served data rest}, op = .serve served → served.reads = some (a, data) →
    s.uplink a = data :: rest → (meant data).isSome = true → Connected a b i s.frontend
  others : ∀ {served client data rest}, op = .serve served → served.reads = some (client, data) →
    client ≠ a → s.uplink client = data :: rest → (meant data).isSome = true →
    b ∈ s.frontend.server.recipients client →
    (s.frontend.server.connections client).instanceId ≠ i

structure Lossless (a b : ConnectionId) (i : UInt16) (s : System)
    (routes : ConnectionId → List (ConnectionId × CombatEvent)) : Prop where
  own : ∃ done, s.sent a = done ++ s.uplink a ∧
    (routes b).filter (·.1 = a) = (done.filterMap meant).map fun e => (a, ⟨e, i⟩)
  others : ∀ route ∈ routes b, route.1 ≠ a → route.2.senderInstanceId ≠ i

variable {a b : ConnectionId} {i : UInt16} {s t : System} {op : Op}
  {routes routes' : ConnectionId → List (ConnectionId × CombatEvent)}

theorem filter_extend (client : ConnectionId) (sends : List Send) (a b : ConnectionId) :
    (extend routes client sends b).filter (·.1 = a) = (routes b).filter (·.1 = a) ++
      if client = a then (sends.filterMap (Send.toward b)).map (client, ·) else [] := by
  unfold extend
  rw [List.filter_append]
  congr 1
  split
  · rename_i same
    refine List.filter_eq_self.mpr fun route mem => ?_
    obtain ⟨e, -, rfl⟩ := List.mem_map.mp mem
    exact decide_eq_true same
  · rename_i other
    refine List.filter_eq_nil_iff.mpr fun route mem here => ?_
    obtain ⟨e, -, rfl⟩ := List.mem_map.mp mem
    exact other (of_decide_eq_true here)

theorem Lossless.read {served : Frontend.Op} {client : ConnectionId} {data : List UInt8}
    {rest : List (List UInt8)} {f : Frontend} (lossless : Lossless a b i s routes)
    (consistent : Consistent s.frontend.server) (now : Int64)
    (reads : served.reads = some (client, data)) (arrived : s.uplink client = data :: rest)
    (passes : Passes a b i s (.serve served)) :
    Lossless a b i (s.read client rest f)
      (extend routes client (s.frontend.accepted now data client)) := by
  obtain ⟨⟨done, sent, own⟩, others⟩ := lossless
  constructor
  · by_cases same : client = a
    · subst same
      refine ⟨done ++ [data], ?_, ?_⟩
      · have uplink : (s.read client rest f).uplink client = rest := Function.update_self _ _ _
        rw [uplink, List.append_assoc]
        exact sent.trans (congrArg (done ++ ·) arrived)
      · rw [filter_extend, if_pos rfl, own, List.filterMap_append, List.map_append]
        congr 1
        cases told : meant data with
        | none =>
          obtain none | ⟨event, told', -⟩ := s.frontend.accepted_eq_sends now data client
          · rw [none, List.filterMap_cons, told]
            rfl
          · cases told.symm.trans told'
        | some event =>
          obtain ⟨registered, instanceId, recipient⟩ :=
            passes.own rfl reads arrived (by rw [told]; rfl)
          have distinct : (s.frontend.server.recipients client).Nodup := consistent.nodup_recipients
          have sends : (s.frontend.server.sends client event).filterMap (Send.toward b) =
              List.replicate ((s.frontend.server.recipients client).count b)
                ⟨event, (s.frontend.server.connections client).instanceId⟩ := toward_sends _ _ _ b
          rw [Frontend.accepted_combatEvent told registered, sends,
            List.count_eq_one_of_mem distinct recipient, instanceId, List.filterMap_cons, told]
          rfl
    · refine ⟨done, ?_, ?_⟩
      · have uplink : (s.read client rest f).uplink a = s.uplink a :=
          Function.update_of_ne (Ne.symm same) _ _
        rw [uplink]
        exact sent
      · rw [filter_extend, if_neg same, List.append_nil]
        exact own
  · intro route mem foreign
    obtain before | new := List.mem_append.mp mem
    · exact others route before foreign
    · obtain ⟨e, here, rfl⟩ := List.mem_map.mp new
      obtain none | ⟨event, told, sends⟩ := s.frontend.accepted_eq_sends now data client
      · rw [none] at here
        cases here
      · rw [sends] at here
        obtain ⟨recipient, id⟩ := Frontend.mem_toward_sends here
        rw [id]
        exact passes.others rfl reads foreign arrived (by rw [told]; rfl) recipient

theorem Lossless.step (lossless : Lossless a b i s routes)
    (consistent : Consistent s.frontend.server) (extends' : Extends s routes op routes')
    (step : Step s op t) (passes : Passes a b i s op) : Lossless a b i t routes' := by
  cases extends' with
  | same other =>
    obtain ⟨⟨done, sent, own⟩, others⟩ := lossless
    cases step with
    | @write client data =>
      refine ⟨⟨done, ?_, own⟩, others⟩
      by_cases same : a = client
      · subst same
        simp only [System.write, Function.update_self]
        rw [sent, List.append_assoc]
      · simp only [System.write, Function.update_of_ne same]
        exact sent
    | serve => exact ⟨⟨done, sent, own⟩, others⟩
    | deliver => exact ⟨⟨done, sent, own⟩, others⟩
    | read step reads => cases (other _ rfl).symm.trans reads
  | read now reads arrived =>
    cases step with
    | serve step other => cases other.symm.trans reads
    | read step reads' arrived' =>
      obtain ⟨rfl, rfl⟩ := Prod.mk.inj (Option.some.inj (reads.symm.trans reads'))
      obtain ⟨-, rfl⟩ := List.cons.inj (arrived.symm.trans arrived')
      exact lossless.read consistent now reads arrived passes

theorem Lossless.write (lossless : Lossless a b i s routes)
    (consistent : Consistent s.frontend.server) (client : ConnectionId) (data : List UInt8) :
    Lossless a b i (s.write client data) routes :=
  lossless.step consistent (.same (by rintro _ ⟨⟩)) .write
    ⟨by rintro _ _ _ ⟨⟩, by rintro _ _ _ _ ⟨⟩⟩

theorem initial_lossless (threshold : UInt64) :
    Lossless a b i (initial threshold) fun _ => [] :=
  ⟨⟨[], rfl, rfl⟩, by rintro _ ⟨⟩⟩

end System

end ArcdpsHealing.Networking
