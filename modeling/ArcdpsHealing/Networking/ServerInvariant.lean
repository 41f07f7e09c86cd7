import ArcdpsHealing.Networking.ServerRuns
import Mathlib.Data.PEquiv

namespace ArcdpsHealing.Networking

open Arcdps Lib

structure Consistent (s : Server) : Prop where
  paired : ∀ name node client, s.find name = some ⟨node, client⟩ ↔
    (s.connections client).iterator = some ⟨name, node⟩
  closed : ∀ client, (s.connections client).forceDisconnected = true →
    (s.connections client).iterator = none
  defined : s.undefined = false

namespace Consistent

variable {s : Server} (h : Consistent s)

theorem fresh (threshold : UInt64) :
    Consistent { conflictingClientDisconnectThresholdMs := threshold } :=
  ⟨by simp [Server.find], by simp, rfl⟩

include h

theorem online {name : AccountName} {entry : Entry} (found : s.find name = some entry) :
    (s.connections entry.client).forceDisconnected = false := by
  have registered := (h.paired name entry.node entry.client).mp found
  cases flag : (s.connections entry.client).forceDisconnected with
  | false => rfl
  | true =>
    rw [h.closed _ flag] at registered
    cases registered

theorem modify {client : ConnectionId} {f : ConnectionContext → ConnectionContext}
    (iterator : (f (s.connections client)).iterator = (s.connections client).iterator)
    (flag : (f (s.connections client)).forceDisconnected =
      (s.connections client).forceDisconnected) :
    Consistent (s.modify client f) := by
  obtain ⟨paired, closed, defined⟩ := h
  constructor
  · grind
  · grind
  · exact defined

theorem forceDisconnect (client : ConnectionId) : Consistent (s.forceDisconnect client) := by
  obtain ⟨paired, closed, defined⟩ := h
  unfold Server.forceDisconnect
  split
  · rename_i unregistered
    constructor
    · grind
    · grind
    · exact defined
  · rename_i it registered
    have found := (paired it.name it.node client).mpr registered
    have erased := Server.find_erase found rfl
    constructor
    · grind
    · grind
    · simpa [Server.undefined_erase found rfl] using defined

theorem register {client : ConnectionId} {name : AccountName}
    (online : (s.connections client).forceDisconnected = false)
    (unregistered : (s.connections client).iterator = none) (free : s.find name = none)
    (instanceId : UInt16) :
    Consistent ((s.emplace name client).register client ⟨name, s.nextNode⟩ instanceId) := by
  obtain ⟨paired, closed, defined⟩ := h
  constructor
  · grind
  · grind
  · exact defined

theorem takeOver {client : ConnectionId} {name : AccountName} {entry : Entry}
    (online : (s.connections client).forceDisconnected = false)
    (unregistered : (s.connections client).iterator = none)
    (taken : s.find name = some entry) (instanceId : UInt16) :
    Consistent (((s.supersede entry.client).assign ⟨name, entry.node⟩ client).register client
      ⟨name, entry.node⟩ instanceId) := by
  obtain ⟨paired, closed, defined⟩ := h
  have owner := (paired name entry.node entry.client).mp taken
  constructor
  · grind
  · grind
  · exact defined

theorem accepts {client : ConnectionId} {now : Int64} {m : Message} {s' : Server}
    {sends : List Send} (accepted : s.Accepts now client m s' sends) : Consistent s' := by
  cases accepted with
  | register online unregistered free => exact h.register online unregistered free _
  | takeOver online unregistered taken stale => exact h.takeOver online unregistered taken _
  | setSelfId registered => exact h.modify rfl rfl
  | addPeer registered => exact h.modify rfl rfl
  | removePeer registered => exact h.modify rfl rfl
  | combatEvent registered => exact h

theorem stamp (now : Int64) (client : ConnectionId) : Consistent (s.stamp now client) :=
  h.modify rfl rfl

theorem find_forceDisconnect {client : ConnectionId} {name : AccountName} {entry : Entry}
    (found : s.find name = some entry) (other : entry.client ≠ client) :
    (s.forceDisconnect client).find name = some entry := by
  obtain ⟨paired, closed, defined⟩ := h
  unfold Server.forceDisconnect
  split
  · exact found
  · rename_i it registered
    have own := (paired it.name it.node client).mpr registered
    rw [Server.find_modify, Server.find_erase own rfl]
    grind

end Consistent

def Consistent.registry {s : Server} (h : Consistent s) : AccountName ≃. ConnectionId where
  toFun name := (s.find name).map (·.client)
  invFun client := (s.connections client).iterator.map (·.name)
  inv name client := by
    simp only [Option.map_eq_some_iff]
    constructor
    · intro ⟨it, registered, same⟩
      subst same
      exact ⟨_, (h.paired _ _ _).mpr registered, rfl⟩
    · intro ⟨entry, found, same⟩
      subst same
      exact ⟨_, (h.paired _ _ _).mp found, rfl⟩

theorem Consistent.mem_registry {s : Server} (h : Consistent s) {name : AccountName}
    {client : ConnectionId} :
    client ∈ h.registry name ↔ ∃ entry, s.find name = some entry ∧ entry.client = client :=
  Option.map_eq_some_iff

namespace Server

variable {s s' : Server} {now : Int64} {client other : ConnectionId} {m : Message}
  {sends : List Send}

theorem Accepts.iterator (accepted : s.Accepts now client m s' sends)
    (registered : (s'.connections other).iterator.isSome = true) :
    (s.connections other).iterator.isSome = true ∨ other = client := by
  cases accepted <;> grind

theorem Accepts.closed (accepted : s.Accepts now client m s' sends)
    (closed : (s.connections other).forceDisconnected = true) :
    (s'.connections other).forceDisconnected = true := by
  cases accepted <;> grind

@[grind =] theorem connections_forceDisconnect :
    (s.forceDisconnect client).connections other =
      if other = client then
        { s.connections client with iterator := none, forceDisconnected := true }
      else s.connections other := by
  unfold forceDisconnect
  split
  · rename_i unregistered
    rw [connections_modify, ← unregistered]
  · rw [connections_modify, connections_erase, connections_erase]

end Server

section Runs

variable {w w' : World} {l : Label} {ls : List Label} {client : ConnectionId} {threshold : UInt64}

theorem consistent_step (h : Consistent w.server) (step : Step w l w') : Consistent w'.server := by
  cases step with
  | accept now _ _ handled => exact h.accepts (Server.handle_accepts handled)
  | stamp now _ => exact h.stamp now _
  | disconnect _ => exact h.forceDisconnect _
  | receive | close | malformed | ignore | reject | send => exact h

theorem iterator_step (step : Step w l w')
    (registered : (w'.server.connections client).iterator.isSome = true) :
    (w.server.connections client).iterator.isSome = true ∨ client = l.client := by
  cases step with
  | accept now _ _ handled => exact (Server.handle_accepts handled).iterator registered
  | stamp | disconnect => grind
  | receive | close | malformed | ignore | reject | send => exact .inl registered

theorem closed_step (step : Step w l w')
    (closed : (w.server.connections client).forceDisconnected = true) :
    (w'.server.connections client).forceDisconnected = true := by
  cases step with
  | accept now _ _ handled => exact (Server.handle_accepts handled).closed closed
  | stamp | disconnect => grind
  | receive | close | malformed | ignore | reject | send => exact closed

theorem run_consistent (h : Consistent w.server) (run : Run Step w ls w') :
    Consistent w'.server :=
  run.invariant (P := fun w => Consistent w.server) (fun _ => True)
    (fun h _ step => consistent_step h step) h (by simp)

theorem initial_consistent (run : Run Step (.initial threshold) ls w) : Consistent w.server :=
  run_consistent (.fresh threshold) run

theorem run_closed (run : Run Step w ls w')
    (closed : (w.server.connections client).forceDisconnected = true) :
    (w'.server.connections client).forceDisconnected = true :=
  run.invariant (P := fun w => (w.server.connections client).forceDisconnected = true)
    (fun _ => True) (fun h _ step => closed_step step h) closed (by simp)

theorem run_registered (run : Run Step (.initial threshold) ls w)
    (registered : (w.server.connections client).iterator.isSome = true) :
    ∃ l ∈ ls, l.client = client := by
  refine run.history (P := fun ls w =>
    (w.server.connections client).iterator.isSome = true → ∃ l ∈ ls, l.client = client)
    (fun _ => True) (fun {ls t l u} ih _ step now => ?_) ?_ (by simp) registered
  · cases iterator_step step now with
    | inl before =>
      obtain ⟨l', mem, same⟩ := ih before
      exact ⟨l', by simp [mem], same⟩
    | inr same => exact ⟨l, by simp, same.symm⟩
  · simp [World.initial]

/-- The registration table in every reachable state. -/
theorem registration_table (run : Run Step (.initial threshold) ls w) :
    let s := w.server
    (∀ name entry, s.find name = some entry →
      (s.connections entry.client).iterator = some ⟨name, entry.node⟩) ∧
    (∀ client it, (s.connections client).iterator = some it →
      s.find it.name = some ⟨it.node, client⟩) ∧
    (∀ name₁ name₂ entry₁ entry₂, s.find name₁ = some entry₁ → s.find name₂ = some entry₂ →
      entry₁.client = entry₂.client → name₁ = name₂) ∧
    (∀ name entry, s.find name = some entry →
      (s.connections entry.client).forceDisconnected = false) ∧
    (∀ client, (s.connections client).forceDisconnected = true → ∀ ls' w', Run Step w ls' w' →
      (w'.server.connections client).forceDisconnected = true ∧
        ∀ name entry, w'.server.find name = some entry → entry.client ≠ client) ∧
    (∀ client name entry, s.find name = some entry → entry.client ≠ client →
      (s.forceDisconnect client).find name = some entry) ∧
    ((∀ l ∈ ls, (s.connections l.client).forceDisconnected = true) → s.registeredAgents = ∅) ∧
    s.undefined = false := by
  have h := initial_consistent run
  refine ⟨?_, ?_, ?_, ?_, ?_, ?_, ?_, ?_⟩
  · exact fun name entry found => (h.paired _ _ _).mp found
  · exact fun client it registered => (h.paired _ _ _).mpr registered
  · intro name₁ name₂ entry₁ entry₂ found₁ found₂ same
    exact h.registry.inj (h.mem_registry.mpr ⟨_, found₁, same⟩)
      (h.mem_registry.mpr ⟨_, found₂, rfl⟩)
  · exact fun name entry => h.online
  · intro client closed ls' w' later
    have still := run_closed later closed
    refine ⟨still, fun name entry found same => ?_⟩
    subst same
    rw [(run_consistent h later).online found] at still
    cases still
  · exact fun client name entry found other => h.find_forceDisconnect found other
  · intro all
    apply Std.ExtTreeMap.ext_getElem?
    intro name
    rw [Std.ExtTreeMap.getElem?_empty]
    cases found : w.server.find name with
    | none => exact found
    | some entry =>
      have registered := (h.paired name entry.node entry.client).mp found
      obtain ⟨l, mem, same⟩ := run_registered run (by rw [registered]; rfl)
      have flag := all l mem
      rw [same, h.online found] at flag
      cases flag
  · exact h.defined

section Witness

def World.accept (w : World) (k : Nat) (client : ConnectionId) (m : Message) (s : Server)
    (sends : List Send) : World :=
  ((w.goto k (.incoming client m.encode)).setServer s).goto k (.sending client sends)

theorem accept_run {v : World} {m : Message} {s : Server} {sends : List Send} {k : Nat}
    (run : Run Step v ls w) (idle : w.calls k = .idle) (short : m.Short) (now : Int64)
    (accepted : w.server.Accepts now client m s sends) :
    Run Step v (ls ++ [⟨k, client, .received⟩] ++ [⟨k, client, .accepted m⟩])
      (w.accept k client m s sends) :=
  .snoc (.snoc run (.receive client _ idle))
    (.accept now (w.calls_goto_self k _) (Message.parse_encode m short) accepted.handle)

def occupied : World :=
  let w := World.initial 30000
  w.accept 0 0 (.registerSelf 5 [97])
    ((w.server.emplace [97] 0).register 0 ⟨[97], 0⟩ 5) []

def takenOver : World :=
  occupied.accept 1 1 (.registerSelf 6 [97])
    (((occupied.server.supersede 0).assign ⟨[97], 0⟩ 1).register 1 ⟨[97], 0⟩ 6) []

theorem occupied_run : Run Step (.initial 30000)
    [⟨0, 0, .received⟩, ⟨0, 0, .accepted (.registerSelf 5 [97])⟩] occupied := by
  have free : (World.initial 30000).server.find [97] = none := by simp [World.initial, Server.find]
  exact accept_run .nil rfl (show [97].length < 256 by decide) 0 (.register rfl rfl free)

theorem takenOver_run : Run Step (.initial 30000)
    [⟨0, 0, .received⟩, ⟨0, 0, .accepted (.registerSelf 5 [97])⟩, ⟨1, 1, .received⟩,
      ⟨1, 1, .accepted (.registerSelf 6 [97])⟩] takenOver := by
  have taken : occupied.server.find [97] = some ⟨0, 0⟩ := by
    simp [occupied, World.accept, Server.find_emplace, World.initial]
  exact accept_run occupied_run rfl (show [97].length < 256 by decide) 40000000000
    (.takeOver rfl rfl taken (by decide))

theorem registration_table_takenOver :
    let s := takenOver.server
    (∀ name entry, s.find name = some entry →
      (s.connections entry.client).iterator = some ⟨name, entry.node⟩) ∧
    (∀ client it, (s.connections client).iterator = some it →
      s.find it.name = some ⟨it.node, client⟩) ∧
    (∀ name₁ name₂ entry₁ entry₂, s.find name₁ = some entry₁ → s.find name₂ = some entry₂ →
      entry₁.client = entry₂.client → name₁ = name₂) ∧
    (∀ name entry, s.find name = some entry →
      (s.connections entry.client).forceDisconnected = false) ∧
    (∀ client, (s.connections client).forceDisconnected = true →
      ∀ ls' w', Run Step takenOver ls' w' →
      (w'.server.connections client).forceDisconnected = true ∧
        ∀ name entry, w'.server.find name = some entry → entry.client ≠ client) ∧
    (∀ client name entry, s.find name = some entry → entry.client ≠ client →
      (s.forceDisconnect client).find name = some entry) ∧
    ((∀ l ∈ [(⟨0, 0, .received⟩ : Label), ⟨0, 0, .accepted (.registerSelf 5 [97])⟩,
        ⟨1, 1, .received⟩, ⟨1, 1, .accepted (.registerSelf 6 [97])⟩],
      (s.connections l.client).forceDisconnected = true) → s.registeredAgents = ∅) ∧
    s.undefined = false :=
  registration_table takenOver_run

end Witness

end Runs

end ArcdpsHealing.Networking
