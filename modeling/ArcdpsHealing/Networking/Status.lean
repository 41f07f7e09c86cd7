import ArcdpsHealing.Networking.Conformance

namespace ArcdpsHealing.Networking

open Arcdps Lib

def Client.Position.context : Client.Position → Option ConnectionId
  | selfInfo context => some context
  | peerEvent context _ => some context
  | queuedEvent context _ => some context
  | sendEvent context _ _ => some context
  | asyncNext | branch | returned | assertFailed => none

namespace Client

/-- A step along with the data that a read has brought. Agents may be of any kind. -/
inductive Observed (c : Enums) (x : Client) : Label × List UInt8 → Client → Prop
  | serve {l : Label} {data : List UInt8} {y : Client} (step : Step c x l y)
      (read : ∀ tag ok, l = .completed tag ok → y = x.complete tag ok data) :
      Observed c x (l, data) y
  | localAgent (source destination : Ag) : Observed c x (.internal, [])
      { x with selfInfo := processLocalAgent x.selfInfo source destination }
  | areaAgent (source destination : Ag) : Observed c x (.internal, [])
      { x with mPeers := processAreaAgent x.mPeers source destination }

def fails (context : ConnectionId) : Label × List UInt8 → Bool
  | (.completed tag ok, data) =>
    if tag.context = context then
      match tag.type with
      | .readMessage => !ok || !(parse data).isOk
      | .connect => !ok
      | _ => false
    else false
  | (.internal, _) | (.opened _, _) | (.sent _ _ _, _) => false

def disconnectsSilently (x : Client) : Label × List UInt8 → Bool
  | (.completed tag ok, data) =>
    x.connected && ok && x.mConnectionContext = some tag.context &&
      tag.type = .readMessage && !(parse data).isOk
  | (.internal, _) | (.opened _, _) | (.sent _ _ _, _) => false

def Running (x : Client) : Prop := x.mShouldShutdown = false ∧ x.mShutdown = false

/-- What `Connected` is to say of the connection in use, after some steps. -/
def StatusHolds (ls : List (Label × List UInt8)) (x : Client) : Prop :=
  x.connected = true → ∃ context, x.mConnectionContext = some context ∧
    (∃ data, (.completed ⟨.connect, context⟩ true, data) ∈ ls) ∧
    ∀ p ∈ ls, fails context p = false

section Steps

variable {x y : Client} {c : Enums} {l : Label} {p : Label × List UInt8}
  {ls : List (Label × List UInt8)}

structure Spares (x y : Client) : Prop where
  connected : y.connected = x.connected
  connection : y.mConnectionContext = x.mConnectionContext
  opened : y.opened = x.opened
  queue : ∀ tag ∈ y.queue, tag ∈ x.queue ∨ x.position.context = some tag.context
  position : ∀ context, y.position.context = some context →
    x.position.context = some context ∨ x.mConnectionContext = some context
  intact : ∀ context, (y.contexts context).forceDisconnected =
    (x.contexts context).forceDisconnected
  running : y.Running → x.Running

theorem Spares.goto (x : Client) (position : Position)
    (same : ∀ context, position.context = some context →
      x.position.context = some context ∨ x.mConnectionContext = some context) :
    Spares x (x.goto position) :=
  ⟨rfl, rfl, rfl, fun _ => .inl, same, fun _ => rfl, id⟩

theorem Spares.idle (x : Client) {position : Position} (none : position.context = none) :
    Spares x (x.goto position) := by
  refine .goto x position fun context named => ?_
  rw [none] at named
  cases named

theorem spares_checkSelf {context : ConnectionId} (here : x.position = .selfInfo context) :
    Spares x (x.checkSelf context) := by
  have stays (position : Position) (same : position.context = some context) :
      Spares x (x.goto position) := by
    refine .goto x position fun other named => .inl ?_
    rw [here, ← named, same]
    rfl
  unfold checkSelf
  dsimp only
  split
  · split
    · exact .idle x rfl
    · exact stays _ rfl
  split
  · exact stays _ rfl
  · exact .idle x rfl

theorem spares_checkPeers {context : ConnectionId} {instanceId : UInt16}
    (here : x.position = .peerEvent context instanceId) :
    Spares x (x.checkPeers context instanceId) := by
  have same : x.position.context = some context := by
    rw [here]
    rfl
  unfold checkPeers
  split
  · exact .goto x _ fun other named => .inl (same.trans named)
  · refine ⟨rfl, rfl, rfl, fun _ => .inl, fun other named => .inl (same.trans named),
      fun other => ?_, id⟩
    simp only [contexts_goto, contexts_modify]
    split <;> simp_all
  · exact .idle x rfl

theorem spares_checkQueue {context : ConnectionId} {instanceId : UInt16}
    (here : x.position = .queuedEvent context instanceId) :
    Spares x (x.checkQueue context instanceId) := by
  have same : x.position.context = some context := by
    rw [here]
    rfl
  unfold checkQueue
  split
  · exact .idle x rfl
  · exact ⟨rfl, rfl, rfl, fun _ => .inl, fun other named => .inl (same.trans named),
      fun _ => rfl, id⟩

theorem spares_sendEvent {context : ConnectionId} {instanceId : UInt16} {data : CallData}
    (here : x.position = .sendEvent context instanceId data) :
    Spares x (x.sendEvent context data) := by
  refine ⟨rfl, rfl, rfl, fun tag member => ?_, nofun, fun other => ?_, id⟩
  · cases member with
    | head =>
      rw [here]
      exact .inr rfl
    | tail _ member => exact .inl member
  · simp only [Client.sendEvent, contexts_goto, enqueue, contexts_modify]
    split <;> simp_all

theorem spares_localEvent (event : CbtEvent) : Spares x (x.processLocalEvent c event) := by
  unfold processLocalEvent queueEvent
  split
  · split
    · exact ⟨rfl, rfl, rfl, fun _ => .inl, fun _ => .inl, fun _ => rfl, id⟩
    · exact ⟨rfl, rfl, rfl, fun _ => .inl, fun _ => .inl, fun _ => rfl, id⟩
  · exact ⟨rfl, rfl, rfl, fun _ => .inl, fun _ => .inl, fun _ => rfl, id⟩

theorem step_cases (step : Step c x l y) :
    (∃ tag ok, l = .completed tag ok ∧ tag ∈ x.queue) ∨
    (∃ context, l = .opened context ∧ context ∉ x.opened ∧ x.mConnectionContext = none ∧
      y = x.connect context) ∨
    Spares x y ∧ (l = .internal ∨ ∃ context instanceId m, l = .sent context instanceId m) := by
  cases step with
  | @gotEvent tag ok data here queued => exact .inl ⟨tag, ok, rfl, queued⟩
  | @connect context here branch fresh =>
    refine .inr (.inl ⟨context, rfl, fresh, ?_, rfl⟩)
    unfold Client.branch at branch
    grind
  | localAgent | areaAgent | setEnabledStatus | setBudgetMode =>
    exact .inr (.inr ⟨⟨rfl, rfl, rfl, fun _ => .inl, fun _ => .inl, fun _ => rfl, id⟩, .inl rfl⟩)
  | shouldShutdown =>
    exact .inr (.inr ⟨⟨rfl, rfl, rfl, fun _ => .inl, fun _ => .inl, fun _ => rfl,
      fun running => (by cases running.1)⟩, .inl rfl⟩)
  | shutDown =>
    exact .inr (.inr ⟨⟨rfl, rfl, rfl, fun _ => .inl, fun _ named => (by cases named), fun _ => rfl,
      fun running => (by cases running.2)⟩, .inl rfl⟩)
  | localEvent event => exact .inr (.inr ⟨spares_localEvent event, .inl rfl⟩)
  | timeout | gotShutdown | nothing | early | tooLong =>
    exact .inr (.inr ⟨.idle x rfl, .inl rfl⟩)
  | send here branch =>
    refine .inr (.inr ⟨.goto x _ fun context named => .inr ?_, .inl rfl⟩)
    cases named
    exact (branch_send branch).1
  | checkSelf here => exact .inr (.inr ⟨spares_checkSelf here, .inl rfl⟩)
  | checkPeers here => exact .inr (.inr ⟨spares_checkPeers here, .inl rfl⟩)
  | checkQueue here => exact .inr (.inr ⟨spares_checkQueue here, .inl rfl⟩)
  | sendEvent here fits => exact .inr (.inr ⟨spares_sendEvent here, .inr ⟨_, _, _, rfl⟩⟩)

structure Tracks (ls : List (Label × List UInt8)) (x : Client) : Prop where
  queued : ∀ tag ∈ x.queue, tag.context ∈ x.opened
  position : ∀ context, x.position.context = some context → context ∈ x.opened
  current : ∀ context, x.mConnectionContext = some context → context ∈ x.opened
  past : ∀ tag ok data, (.completed tag ok, data) ∈ ls → tag.context ∈ x.opened
  intact : ∀ context, (x.contexts context).forceDisconnected = false

def Unfailed (ls : List (Label × List UInt8)) (x : Client) : Prop :=
  ∀ context, x.mConnectionContext = some context → ∀ p ∈ ls, fails context p = false

section Complete

variable (tag : Tag) (ok : Bool) (data : List UInt8)

theorem shutdown_handle : (x.handle tag ok data).mShouldShutdown = x.mShouldShutdown ∧
    (x.handle tag ok data).mShutdown = x.mShutdown := by
  simp only [handle, handleReadMessage, forceDisconnect, readNext, clear, clearStatus, enqueue]
  grind

theorem connection_handle (running : x.mShutdown = false)
    (intact : ∀ context, (x.contexts context).forceDisconnected = false) :
    (x.handle tag ok data).mConnectionContext =
      if x.mConnectionContext = some tag.context ∧
        fails tag.context (.completed tag ok, data) = true then none
      else x.mConnectionContext := by
  simp only [handle, fails, if_true]
  cases type : tag.type with
  | readMessage =>
    cases ok with
    | true =>
      simp only [handleReadMessage, forceDisconnect, readNext, clear, enqueue, running, if_true]
      cases parse data with
      | error => simp [Except.isOk, Except.toBool, intact]; split <;> rfl
      | ok => simp [Except.isOk, Except.toBool]
    | false =>
      simp only [clearStatus, running]
      grind
  | connect =>
    simp only [clearStatus, enqueue, running]
    grind
  | writesDone | finish | registerSelf | addPeer | removePeer | combatEvent | disconnect => simp

theorem connected_handle (running : x.mShutdown = false) :
    (x.handle tag ok data).connected =
      if x.mConnectionContext = some tag.context then
        match tag.type, ok with
        | .connect, ok => ok
        | .readMessage, false => false
        | _, _ => x.connected
      else x.connected := by
  simp only [handle, handleReadMessage, forceDisconnect, readNext, clear, clearStatus, enqueue,
    running]
  grind

theorem release_spares : Spares x { x.release tag with position := x.position } ∧
    (x.release tag).position.context = none := by
  unfold release
  split
  · split
    · refine ⟨⟨rfl, rfl, rfl, fun _ => .inl, fun _ => .inl, fun other => ?_, id⟩, rfl⟩
      simp only [contexts_goto, contexts_modify]
      split <;> simp_all
    · exact ⟨⟨rfl, rfl, rfl, fun _ => .inl, fun _ => .inl, fun _ => rfl, id⟩, rfl⟩
  · exact ⟨⟨rfl, rfl, rfl, fun _ => .inl, fun _ => .inl, fun _ => rfl, id⟩, rfl⟩

theorem queue_release : (x.release tag).queue = x.queue := by
  unfold release
  split
  · split <;> rfl
  · rfl

theorem connection_complete (running : x.mShutdown = false)
    (intact : ∀ context, (x.contexts context).forceDisconnected = false) :
    (x.complete tag ok data).mConnectionContext =
      if x.mConnectionContext = some tag.context ∧
        fails tag.context (.completed tag ok, data) = true then none
      else x.mConnectionContext := by
  let z := { x with queue := x.queue.erase tag }
  have handled := connection_handle (x := z) tag ok data running intact
  exact ((release_spares tag).1.connection).trans handled

theorem connected_complete (running : x.mShutdown = false) :
    (x.complete tag ok data).connected =
      if x.mConnectionContext = some tag.context then
        match tag.type, ok with
        | .connect, ok => ok
        | .readMessage, false => false
        | _, _ => x.connected
      else x.connected := by
  let z := { x with queue := x.queue.erase tag }
  exact ((release_spares tag).1.connected).trans (connected_handle (x := z) tag ok data running)

theorem running_complete (running : (x.complete tag ok data).Running) : x.Running := by
  let z := { x with queue := x.queue.erase tag }
  have same := shutdown_handle (x := z) tag ok data
  have before := (release_spares tag).1.running running
  exact ⟨same.1.symm.trans before.1, same.2.symm.trans before.2⟩

theorem Tracks.complete (h : Tracks ls x) (queued : tag ∈ x.queue) :
    Tracks (ls ++ [(.completed tag ok, data)]) (x.complete tag ok data) := by
  let z := { x with queue := x.queue.erase tag }
  have handled := handled_handle z tag ok data
  obtain ⟨released, nowhere⟩ := release_spares (x := z.handle tag ok data) tag
  have opened : (x.complete tag ok data).opened = x.opened := released.opened.trans handled.opened
  constructor
  · intro t member
    rw [opened]
    have member : t ∈ (z.handle tag ok data).queue :=
      queue_release (x := z.handle tag ok data) tag ▸ member
    have before (rest : t ∈ x.queue.erase tag) : t.context ∈ x.opened :=
      h.queued t (List.mem_of_mem_erase rest)
    cases handled.queue with
    | inl same =>
      rw [same] at member
      exact before member
    | inr more =>
      obtain ⟨type, reads, more⟩ := more
      rw [more] at member
      cases member with
      | head => exact h.queued tag queued
      | tail _ rest => exact before rest
  · intro context named
    rw [show (x.complete tag ok data).position.context = none from nowhere] at named
    cases named
  · intro context current
    rw [opened]
    have connection : (x.complete tag ok data).mConnectionContext = _ := released.connection
    cases handled.connection with
    | inl same => exact h.current context (same.symm.trans (connection.symm.trans current))
    | inr gone => exact nomatch gone.symm.trans (connection.symm.trans current)
  · intro t ok' data' member
    rw [opened]
    simp only [List.mem_append, List.mem_singleton] at member
    cases member with
    | inl before => exact h.past t ok' data' before
    | inr this =>
      cases this
      exact h.queued tag queued
  · intro context
    rw [show ((x.complete tag ok data).contexts context).forceDisconnected = _ from
      released.intact context, handled.contexts]
    exact h.intact context

end Complete

theorem Tracks.spares (h : Tracks ls x) (spares : Spares x y)
    (quiet : ∀ tag ok, p.1 ≠ .completed tag ok) : Tracks (ls ++ [p]) y := by
  obtain ⟨queued, position, current, past, intact⟩ := h
  constructor
  · intro tag member
    rw [spares.opened]
    cases spares.queue tag member with
    | inl old => exact queued tag old
    | inr named => exact position _ named
  · intro context named
    rw [spares.opened]
    cases spares.position context named with
    | inl old => exact position context old
    | inr taken => exact current context taken
  · rw [spares.opened, spares.connection]
    exact current
  · intro tag ok data member
    rw [spares.opened]
    simp only [List.mem_append, List.mem_singleton] at member
    cases member with
    | inl before => exact past tag ok data before
    | inr this => exact absurd (congrArg Prod.fst this).symm (quiet tag ok)
  · intro context
    rw [spares.intact]
    exact intact context

theorem Tracks.connect (h : Tracks ls x) {context : ConnectionId} (data : List UInt8) :
    Tracks (ls ++ [(.opened context, data)]) (x.connect context) := by
  obtain ⟨queued, position, current, past, intact⟩ := h
  constructor
  · simpa [Client.connect] using fun tag member => .inr (queued tag member)
  · intro other named
    cases named
  · simp [Client.connect]
  · intro tag ok data' member
    simp only [List.mem_append, List.mem_singleton] at member
    cases member with
    | inl before => exact .tail _ (past tag ok data' before)
    | inr this => cases this
  · intro other
    simp only [Client.connect, Function.update_apply]
    split
    · rfl
    · exact intact other

theorem fails_of_quiet (quiet : ∀ tag ok, p.1 ≠ .completed tag ok) (context : ConnectionId) :
    fails context p = false := by
  obtain ⟨l, data⟩ := p
  cases l with
  | completed tag ok => exact absurd rfl (quiet tag ok)
  | internal | opened | sent => rfl

theorem silent_of_quiet (quiet : ∀ tag ok, p.1 ≠ .completed tag ok) :
    x.disconnectsSilently p = false := by
  obtain ⟨l, data⟩ := p
  cases l with
  | completed tag ok => exact absurd rfl (quiet tag ok)
  | internal | opened | sent => rfl

theorem observed_cases (step : Observed c x p y) :
    (∃ tag ok data, p = (.completed tag ok, data) ∧ tag ∈ x.queue ∧
      y = x.complete tag ok data) ∨
    (∃ context data, p = (.opened context, data) ∧ context ∉ x.opened ∧
      x.mConnectionContext = none ∧ y = x.connect context) ∨
    Spares x y ∧ ∀ tag ok, p.1 ≠ .completed tag ok := by
  cases step with
  | serve step read =>
    rcases step_cases step with ⟨tag, ok, rfl, queued⟩ | ⟨context, rfl, fresh⟩ | ⟨spares, silent⟩
    · exact .inl ⟨tag, ok, _, rfl, queued, read tag ok rfl⟩
    · exact .inr (.inl ⟨context, _, rfl, fresh⟩)
    · refine .inr (.inr ⟨spares, fun tag ok => ?_⟩)
      rcases silent with rfl | ⟨context, instanceId, m, rfl⟩
      · nofun
      · nofun
  | localAgent | areaAgent =>
    exact .inr (.inr ⟨⟨rfl, rfl, rfl, fun _ => .inl, fun _ => .inl, fun _ => rfl, id⟩, nofun⟩)

theorem tracks_step (h : Tracks ls x) (step : Observed c x p y) : Tracks (ls ++ [p]) y := by
  rcases observed_cases step with ⟨tag, ok, data, rfl, queued, rfl⟩ |
    ⟨context, data, rfl, fresh, -, rfl⟩ | ⟨spares, quiet⟩
  · exact h.complete tag ok data queued
  · exact h.connect data
  · exact h.spares spares quiet

theorem running_step (step : Observed c x p y) (running : y.Running) : x.Running := by
  rcases observed_cases step with ⟨tag, ok, data, rfl, queued, rfl⟩ |
    ⟨context, data, rfl, fresh, -, rfl⟩ | ⟨spares, quiet⟩
  · exact running_complete tag ok data running
  · exact running
  · exact spares.running running

theorem unfailed_step (tracks : Tracks ls x) (h : Unfailed ls x) (step : Observed c x p y)
    (running : x.Running) : Unfailed (ls ++ [p]) y := by
  intro context current q member
  simp only [List.mem_append, List.mem_singleton] at member
  rcases observed_cases step with ⟨tag, ok, data, rfl, queued, rfl⟩ |
    ⟨other, data, rfl, fresh, -, rfl⟩ | ⟨spares, quiet⟩
  · rw [connection_complete tag ok data running.2 tracks.intact] at current
    split at current
    · cases current
    · rename_i keeps
      rcases member with before | rfl
      · exact h context current q before
      · by_cases same : tag.context = context
        · rw [current, same] at keeps
          simpa using keeps
        · simp [fails, same]
  · cases current
    rcases member with before | rfl
    · obtain ⟨l, data'⟩ := q
      cases l with
      | completed tag ok =>
        -- a new connection has no past
        have old : tag.context ≠ context := fun same => fresh (same ▸ tracks.past tag ok _ before)
        simp [fails, old]
      | internal | opened | sent => rfl
    · rfl
  · rw [spares.connection] at current
    rcases member with before | rfl
    · exact h context current q before
    · exact fails_of_quiet quiet context

theorem StatusHolds.same (h : StatusHolds ls x) (connected : y.connected = x.connected)
    (connection : y.mConnectionContext = x.mConnectionContext)
    (still : Unfailed (ls ++ [p]) y) : StatusHolds (ls ++ [p]) y := by
  intro reported
  obtain ⟨context, current, ⟨data, made⟩, -⟩ := h (connected.symm.trans reported)
  have current := connection.trans current
  exact ⟨context, current, ⟨data, List.mem_append_left _ made⟩, still context current⟩

theorem statusHolds_step (tracks : Tracks ls x) (unfailed : Unfailed ls x)
    (h : StatusHolds ls x) (step : Observed c x p y) (running : x.Running) :
    StatusHolds (ls ++ [p]) y ↔ x.disconnectsSilently p = false := by
  -- The report is right after a step unless the step loses the connection that is reported
  -- without a word to `GetStatus`.
  have still := unfailed_step tracks unfailed step running
  rcases observed_cases step with ⟨tag, ok, data, rfl, queued, rfl⟩ |
    ⟨context, data, rfl, fresh, none, rfl⟩ | ⟨spares, quiet⟩
  · obtain ⟨type, context⟩ := tag
    have connection := connection_complete ⟨type, context⟩ ok data running.2 tracks.intact
    have connected := connected_complete ⟨type, context⟩ ok data running.2
    have unreported (down : (x.complete ⟨type, context⟩ ok data).connected = false) :
        StatusHolds (ls ++ [(.completed ⟨type, context⟩ ok, data)])
          (x.complete ⟨type, context⟩ ok data) := by
      intro reported
      cases down.symm.trans reported
    by_cases current : x.mConnectionContext = some context
    · simp only [current, true_and, if_true, fails] at connection connected
      cases type with
      | readMessage =>
        cases ok with
        | false => simp [disconnectsSilently, unreported connected]
        | true =>
          cases understood : (parse data).isOk with
          | true =>
            simp only [understood] at connection
            simpa [disconnectsSilently, understood] using
              h.same connected (connection.trans current.symm) still
          | false =>
            simp only [understood] at connection
            cases reported : x.connected with
            | false => simp [disconnectsSilently, reported, unreported (connected.trans reported)]
            | true =>
              simp only [disconnectsSilently, reported, current, understood]
              refine iff_of_false (fun holds => ?_) (by simp)
              obtain ⟨other, gone, -⟩ := holds (connected.trans reported)
              cases connection.symm.trans gone
      | connect =>
        cases ok with
        | false => simp [disconnectsSilently, unreported connected]
        | true =>
          have current : (x.complete ⟨.connect, context⟩ true data).mConnectionContext =
            some context := connection
          refine iff_of_true (fun _ => ⟨context, current, ⟨data, ?_⟩, still context current⟩) ?_
          · exact List.mem_append_right _ (.head _)
          · simp [disconnectsSilently]
      | writesDone | finish | registerSelf | addPeer | removePeer | combatEvent | disconnect =>
        simpa [disconnectsSilently] using h.same connected (connection.trans current.symm) still
    · simp only [current, false_and, if_false] at connection connected
      simpa [disconnectsSilently, current] using h.same connected connection still
  · simp only [disconnectsSilently, iff_true]
    intro connected
    obtain ⟨context', current, -⟩ := h connected
    cases none.symm.trans current
  · simpa only [silent_of_quiet quiet, iff_true] using
      h.same spares.connected spares.connection still

/-- A step that loses no connection silently before a shutdown is requested. -/
def Announced (c : Enums) (x : Client) (p : Label × List UInt8) (y : Client) : Prop :=
  Observed c x p y ∧ (x.Running → x.disconnectsSilently p = false)

theorem run_status (run : Run (Announced c) {} ls x) :
    Tracks ls x ∧ (x.Running → Unfailed ls x ∧ StatusHolds ls x) := by
  induction run with
  | nil =>
    refine ⟨⟨nofun, nofun, nofun, nofun, fun _ => rfl⟩, fun _ => ⟨nofun, nofun⟩⟩
  | snoc run last ih =>
    obtain ⟨tracks, before⟩ := ih
    obtain ⟨step, announced⟩ := last
    refine ⟨tracks_step tracks step, fun running => ?_⟩
    have running := running_step step running
    obtain ⟨unfailed, holds⟩ := before running
    exact ⟨unfailed_step tracks unfailed step running,
      (statusHolds_step tracks unfailed holds step running).mpr (announced running)⟩

/-- As long as no reported connection is lost to a message that is not understood,
the status is right; the first such message makes it wrong. -/
theorem status_holds_iff (run : Run (Announced c) {} ls x) :
    (x.Running → StatusHolds ls x) ∧
    ∀ p y, Observed c x p y → y.Running →
      (StatusHolds (ls ++ [p]) y ↔ x.disconnectsSilently p = false) := by
  obtain ⟨tracks, before⟩ := run_status run
  refine ⟨fun running => (before running).2, fun p y step running => ?_⟩
  have running := running_step step running
  obtain ⟨unfailed, holds⟩ := before running
  exact statusHolds_step tracks unfailed holds step running

end Steps

section Example

def established : Client :=
  (({} : Client).goto .branch |>.connect 0).complete ⟨.connect, 0⟩ true []

def establishing : List (Label × List UInt8) :=
  [(.internal, []), (.opened 0, []), (.completed ⟨.connect, 0⟩ true, [])]

theorem run_established (c : Enums) : Run (Announced c) {} establishing established := by
  have begin : Announced c {} (.internal, []) (({} : Client).goto .branch) :=
    ⟨.serve (.timeout rfl) nofun, fun _ => rfl⟩
  have opened : Announced c (({} : Client).goto .branch) (.opened 0, [])
      ((({} : Client).goto .branch).connect 0) :=
    ⟨.serve (.connect rfl rfl List.not_mem_nil) nofun, fun _ => rfl⟩
  have made : Announced c ((({} : Client).goto .branch).connect 0)
      (.completed ⟨.connect, 0⟩ true, []) established := by
    refine ⟨.serve (.gotEvent rfl (.head _)) fun tag ok same => ?_, fun _ => rfl⟩
    cases same
    rfl
  exact ((Run.nil.snoc begin).snoc opened).snoc made

theorem status_holds_established :
    established.connected = true ∧ StatusHolds establishing established :=
  ⟨rfl, (status_holds_iff (run_established .documented)).1 ⟨rfl, rfl⟩⟩

/-- An empty message leaves a client that says it is connected without a connection. -/
theorem status_fails_unannounced :
    ∃ ls x, Run (Observed .documented) {} ls x ∧ x.Running ∧ x.connected = true ∧
      x.mConnectionContext = none := by
  have run : Run (Observed .documented) {} establishing established :=
    run_established .documented |>.mono fun step => step.1
  have chosen : Observed .documented established (.internal, [])
      (established.goto (.selfInfo 0)) :=
    .serve (.send rfl rfl) nofun
  have idle : Observed .documented (established.goto (.selfInfo 0)) (.internal, [])
      ((established.goto (.selfInfo 0)).checkSelf 0) :=
    .serve (.checkSelf rfl) nofun
  have read : Observed .documented ((established.goto (.selfInfo 0)).checkSelf 0)
      (.completed ⟨.readMessage, 0⟩ true, [])
      (((established.goto (.selfInfo 0)).checkSelf 0).complete ⟨.readMessage, 0⟩ true []) := by
    refine .serve (.gotEvent rfl (.head _)) fun tag ok same => ?_
    cases same
    rfl
  exact ⟨_, _, ((run.snoc chosen).snoc idle).snoc read, ⟨rfl, rfl⟩, rfl, rfl⟩

end Example

end Client

end ArcdpsHealing.Networking
