import ArcdpsHealing.Networking.Serve

namespace ArcdpsHealing.Networking

open Arcdps Lib

namespace Message

def selfId : Message → Option UInt16
  | registerSelf selfId _ => some selfId
  | setSelfId selfId => some selfId
  | addPeer _ _ => none
  | removePeer _ => none
  | combatEvent _ => none

def Follows (last : Option UInt16) (instanceId : UInt16) : Message → Prop
  | registerSelf selfId _ => last = none ∧ selfId = instanceId
  | setSelfId selfId => (∃ id, last = some id ∧ id ≠ instanceId) ∧ selfId = instanceId
  | addPeer _ _ => last = some instanceId
  | removePeer _ => last = some instanceId
  | combatEvent _ => last = some instanceId

end Message

def lastTold (sent : List (UInt16 × Message)) : Option UInt16 :=
  sent.foldl (fun last p => p.2.selfId.or last) none

/-- What may be emitted on a connection. -/
inductive Conforms : List (UInt16 × Message) → Prop
  | nil : Conforms []
  | snoc {sent : List (UInt16 × Message)} {instanceId : UInt16} {m : Message}
      (before : Conforms sent) (next : m.Follows (lastTold sent) instanceId) :
      Conforms (sent ++ [(instanceId, m)])

section Conforms

variable {sent : List (UInt16 × Message)} {instanceId : UInt16} {m : Message}

@[simp] theorem lastTold_snoc : lastTold (sent ++ [(instanceId, m)]) =
    m.selfId.or (lastTold sent) := by
  simp [lastTold]

theorem Conforms.once (h : Conforms sent) :
    (sent = [] ∧ lastTold sent = none) ∨ ((lastTold sent).isSome = true ∧
      ∃ first rest, sent = first :: rest ∧ first.2.IsRegisterSelf ∧
        ∀ p ∈ rest, ¬ p.2.IsRegisterSelf) := by
  induction h with
  | nil => exact .inl ⟨rfl, rfl⟩
  | @snoc sent instanceId m before next ih =>
    right
    cases ih with
    | inl start =>
      obtain ⟨rfl, nothing⟩ := start
      rw [nothing] at next
      cases m with
      | registerSelf selfId name => exact ⟨rfl, _, [], rfl, trivial, by simp⟩
      | setSelfId | addPeer | removePeer | combatEvent => simp [Message.Follows] at next
    | inr later =>
      obtain ⟨told, first, rest, rfl, begins, others⟩ := later
      refine ⟨?_, first, rest ++ [(instanceId, m)], rfl, begins, ?_⟩
      · rw [lastTold_snoc, Option.isSome_or, told, Bool.or_true]
      cases m with
      | registerSelf selfId name => simp [next.1] at told
      | setSelfId | addPeer | removePeer | combatEvent =>
        simpa [or_imp, forall_and, Message.IsRegisterSelf] using others

end Conforms

def CallData.Due (registeredInstanceId instanceId : UInt16) : CallData → Prop
  | registerSelf selfId _ => selfId = instanceId ∧ registeredInstanceId ≠ instanceId
  | addPeer _ _ => registeredInstanceId = instanceId
  | removePeer _ => registeredInstanceId = instanceId
  | combatEvent _ => registeredInstanceId = instanceId

def idTold (registeredInstanceId : UInt16) : Option UInt16 :=
  if registeredInstanceId = 0 then none else some registeredInstanceId

theorem CallData.Due.follows {data : CallData} {registeredInstanceId instanceId : UInt16}
    (due : data.Due registeredInstanceId instanceId) (proper : instanceId ≠ 0) :
    (data.message registeredInstanceId).1.Follows (idTold registeredInstanceId) instanceId ∧
      (data.message registeredInstanceId).1.selfId.or (idTold registeredInstanceId) =
        idTold (data.message registeredInstanceId).2 := by
  cases data with
  | registerSelf selfId name =>
    obtain ⟨rfl, differs⟩ := due
    by_cases fresh : registeredInstanceId = 0
    · simp [CallData.message, Message.Follows, Message.selfId, idTold, fresh, proper]
    · simp [CallData.message, Message.Follows, Message.selfId, idTold, fresh, proper, differs]
  | addPeer | removePeer | combatEvent =>
    cases due
    simp [CallData.message, Message.Follows, Message.selfId, idTold, proper]

theorem CallData.Due.registers {data : CallData} {registeredInstanceId instanceId : UInt16}
    (due : data.Due registeredInstanceId instanceId) (proper : instanceId ≠ 0) :
    (data.message registeredInstanceId).1.IsRegisterSelf ↔ registeredInstanceId = 0 := by
  cases data with
  | registerSelf selfId name =>
    by_cases fresh : registeredInstanceId = 0
    · simp [CallData.message, Message.IsRegisterSelf, fresh]
    · simp [CallData.message, Message.IsRegisterSelf, fresh]
  | addPeer | removePeer | combatEvent =>
    cases due
    simp [CallData.message, Message.IsRegisterSelf, proper]

theorem CallData.Due.told {data : CallData} {registeredInstanceId instanceId : UInt16}
    (due : data.Due registeredInstanceId instanceId) :
    (data.message registeredInstanceId).2 = instanceId := by
  cases data with
  | registerSelf selfId name =>
    obtain ⟨rfl, differs⟩ := due
    simp only [CallData.message]
    split <;> rfl
  | addPeer | removePeer | combatEvent => exact due

namespace Client

def emitted (context : ConnectionId) (ls : List Label) : List (UInt16 × Message) :=
  ls.filterMap fun l =>
    match l with
    | .sent c instanceId m => if c = context then some (instanceId, m) else none
    | .internal => none
    | .completed _ _ => none
    | .opened _ => none

theorem emitted_snoc (context : ConnectionId) (ls : List Label) (l : Label) :
    emitted context (ls ++ [l]) = emitted context ls ++ emitted context [l] :=
  List.filterMap_append

section Updates

variable (x : Client) (context other : ConnectionId) (f : ConnectionContext → ConnectionContext)
  (position : Position) (tag : Tag)

@[grind =] theorem contexts_modify : (x.modify context f).contexts other =
    if other = context then f (x.contexts context) else x.contexts other := by
  simp [modify, Function.update_apply]

@[simp, grind =] theorem selfInfo_modify : (x.modify context f).selfInfo = x.selfInfo := rfl
@[simp, grind =] theorem mPeers_modify : (x.modify context f).mPeers = x.mPeers := rfl
@[simp, grind =] theorem opened_modify : (x.modify context f).opened = x.opened := rfl
@[simp, grind =] theorem queue_modify : (x.modify context f).queue = x.queue := rfl
@[simp, grind =] theorem mConnectionContext_modify :
    (x.modify context f).mConnectionContext = x.mConnectionContext := rfl
@[simp, grind =] theorem position_modify : (x.modify context f).position = x.position := rfl

@[simp, grind =] theorem contexts_goto :
    (x.goto position).contexts other = x.contexts other := rfl
@[simp, grind =] theorem selfInfo_goto : (x.goto position).selfInfo = x.selfInfo := rfl
@[simp, grind =] theorem mPeers_goto : (x.goto position).mPeers = x.mPeers := rfl
@[simp, grind =] theorem opened_goto : (x.goto position).opened = x.opened := rfl
@[simp, grind =] theorem queue_goto : (x.goto position).queue = x.queue := rfl
@[simp, grind =] theorem mConnectionContext_goto :
    (x.goto position).mConnectionContext = x.mConnectionContext := rfl
@[simp, grind =] theorem position_goto : (x.goto position).position = position := rfl

end Updates

structure Handled (x : Client) (context : ConnectionId) (y : Client) : Prop where
  selfInfo : y.selfInfo = x.selfInfo
  mPeers : y.mPeers = x.mPeers
  contexts : ∀ c, y.contexts c = x.contexts c
  opened : y.opened = x.opened
  queue : y.queue = x.queue ∨ ∃ type : CallDataType, type.isWrite = false ∧
    y.queue = ⟨type, context⟩ :: x.queue
  connection : y.mConnectionContext = x.mConnectionContext ∨ y.mConnectionContext = none

namespace Handled

variable {x y : Client} {context : ConnectionId}

theorem refl (x : Client) (context : ConnectionId) : Handled x context x :=
  ⟨rfl, rfl, fun _ => rfl, rfl, .inl rfl, .inl rfl⟩

theorem enqueue {type : CallDataType} (reads : type.isWrite = false) :
    Handled x context (x.enqueue ⟨type, context⟩) :=
  ⟨rfl, rfl, fun _ => rfl, rfl, .inr ⟨type, reads, rfl⟩, .inl rfl⟩

theorem clear (h : Handled x context y) (c : ConnectionId) : Handled x context (y.clear c) := by
  unfold Client.clear
  split
  · exact ⟨h.selfInfo, h.mPeers, h.contexts, h.opened, h.queue, .inr rfl⟩
  · exact h

theorem clearStatus (h : Handled x context y) (c : ConnectionId) :
    Handled x context (y.clearStatus c) := by
  unfold Client.clearStatus
  split
  · exact ⟨h.selfInfo, h.mPeers, h.contexts, h.opened, h.queue, .inr rfl⟩
  · exact h

theorem forceDisconnect (h : Handled x context y) (c : ConnectionId) :
    Handled x context (y.forceDisconnect c) := by
  unfold Client.forceDisconnect
  split
  · exact h
  · exact h.clear c

end Handled

theorem handled_handleReadMessage (x : Client) (context : ConnectionId) (data : List UInt8) :
    Handled x context (x.handleReadMessage context data) := by
  have next : Handled x context (x.readNext context) := by
    unfold readNext
    split
    · exact .enqueue rfl
    · exact .refl x context
  unfold handleReadMessage
  split
  · exact next.forceDisconnect context
  · exact next

theorem handled_handle (x : Client) (tag : Tag) (ok : Bool) (data : List UInt8) :
    Handled x tag.context (x.handle tag ok data) := by
  unfold handle
  cases tag.type with
  | readMessage =>
    dsimp only
    split
    · exact handled_handleReadMessage x _ data
    split
    · exact (Handled.refl x _).clearStatus _
    · exact .refl x _
  | connect =>
    dsimp only
    split
    · split
      · exact ⟨rfl, rfl, fun _ => rfl, rfl, .inl rfl, .inl rfl⟩
      · exact .refl x _
    split
    · exact (Handled.enqueue rfl).clearStatus _
    · exact .refl x _
  | writesDone | finish | registerSelf | addPeer | removePeer | combatEvent | disconnect =>
    exact .refl x _

def Ready (x : Client) (context : ConnectionId) : Prop :=
  context ∈ x.opened ∧ (x.contexts context).writePending = false

def Stands (x : Client) : Position → Prop
  | .asyncNext => True
  | .branch => True
  | .selfInfo context => Ready x context
  | .peerEvent context instanceId =>
    Ready x context ∧ (x.contexts context).registeredInstanceId = instanceId ∧ instanceId ≠ 0
  | .queuedEvent context instanceId =>
    Ready x context ∧ (x.contexts context).registeredInstanceId = instanceId ∧ instanceId ≠ 0
  | .sendEvent context instanceId data =>
    Ready x context ∧ data.fits = true ∧ x.selfInfo.instanceId ≠ 0 ∧ instanceId ≠ 0 ∧
      data.Due (x.contexts context).registeredInstanceId instanceId
  | .returned => True
  | .assertFailed => False

structure Inv (x : Client) : Prop where
  named : x.selfInfo.instanceId ≠ 0 →
    x.selfInfo.accountName ≠ [] ∧ x.selfInfo.accountName.length < 255
  short : ∀ (u : UInt64) (info : PeerInfo), x.mPeers[u]? = some info →
    info.accountName.length < 255
  writes : ∀ c, x.queue.countP (Tag.writes c) =
    if (x.contexts c).writePending = true then 1 else 0
  known : ∀ tag ∈ x.queue, tag.context ∈ x.opened
  current : ∀ c, x.mConnectionContext = some c → c ∈ x.opened
  unopened : ∀ c, c ∉ x.opened → (x.contexts c).registeredInstanceId = 0
  seen : ∀ c, (x.contexts c).registeredInstanceId ≠ 0 → x.selfInfo.instanceId ≠ 0
  position : Stands x x.position

section Steps

variable {x y : Client} {l : Label} {ls : List Label} {c : Enums}

theorem inv_initial : Inv {} := by
  constructor
  all_goals simp [Stands]

theorem Inv.stands (h : Inv x) {position : Position} (here : x.position = position) :
    Stands x position :=
  here ▸ h.position

theorem Inv.goto (h : Inv x) (position : Position) (stands : Stands x position) :
    Inv (x.goto position) := by
  obtain ⟨named, short, writes, known, current, unopened, seen, -⟩ := h
  refine ⟨named, short, writes, known, current, unopened, seen, ?_⟩
  cases position with
  | asyncNext | branch | returned => trivial
  | selfInfo | peerEvent | queuedEvent | sendEvent => exact stands
  | assertFailed => exact stands.elim

theorem Inv.complete (h : Inv x) {tag : Tag} (queued : tag ∈ x.queue) (ok : Bool)
    (data : List UInt8) : Inv (x.complete tag ok data) := by
  -- A completed write was the one that is pending.
  obtain ⟨named, short, writes, known, current, unopened, seen, -⟩ := h
  have handled := handled_handle { x with queue := x.queue.erase tag } tag ok data
  unfold Client.complete
  generalize { x with queue := x.queue.erase tag }.handle tag ok data = y at *
  obtain ⟨selfInfo, mPeers, contexts, opened, queue, connection⟩ := handled
  dsimp only at selfInfo mPeers contexts opened queue connection
  have known' : ∀ tag ∈ y.queue, tag.context ∈ y.opened := by
    have here := known tag queued
    have rest : ∀ t ∈ x.queue.erase tag, t.context ∈ x.opened :=
      fun t mem => known t (List.mem_of_mem_erase mem)
    grind
  have count (c : ConnectionId) :
      y.queue.countP (Tag.writes c) + (if tag.writes c = true then 1 else 0) =
      x.queue.countP (Tag.writes c) := by
    rw [(List.perm_cons_erase queued).countP_eq, List.countP_cons]
    cases queue with
    | inl same => rw [same]
    | inr more =>
      obtain ⟨type, reads, more⟩ := more
      rw [more, List.countP_cons_of_neg]
      simp [Tag.writes, reads]
  unfold release
  split
  · rename_i isWrite
    have pending : (x.contexts tag.context).writePending = true := by
      have one := count tag.context
      have old := writes tag.context
      simp [Tag.writes, isWrite] at one
      grind
    rw [contexts, if_pos pending]
    constructor
    · grind
    · grind
    · intro c
      have one := count c
      have old := writes c
      simp [Tag.writes, isWrite] at one
      grind
    · grind
    · grind
    · grind
    · grind
    · trivial
  · rename_i reads
    simp [Tag.writes, reads] at count
    constructor
    · grind
    · grind
    · intro c
      rw [queue_goto, contexts_goto, contexts, ← writes c]
      simp [count]
    · grind
    · grind
    · grind
    · grind
    · trivial

theorem Inv.localAgent (h : Inv x) {source destination : Ag}
    (proper : ProperSelf source destination) :
    Inv { x with selfInfo := processLocalAgent x.selfInfo source destination } := by
  obtain ⟨named, short, writes, known, current, unopened, seen, position⟩ := h
  unfold ProperSelf at proper
  have new : (processLocalAgent x.selfInfo source destination).instanceId ≠ 0 →
      (processLocalAgent x.selfInfo source destination).accountName ≠ [] ∧
        (processLocalAgent x.selfInfo source destination).accountName.length < 255 := by
    unfold processLocalAgent
    grind
  have still : x.selfInfo.instanceId ≠ 0 →
      (processLocalAgent x.selfInfo source destination).instanceId ≠ 0 := by
    unfold processLocalAgent
    grind
  refine ⟨new, short, writes, known, current, unopened, fun c told => still (seen c told), ?_⟩
  dsimp only
  cases here : x.position with
  | sendEvent context instanceId data =>
    rw [here] at position
    obtain ⟨ready, fits, heard, due⟩ := position
    exact ⟨ready, fits, still heard, due⟩
  | asyncNext | branch | selfInfo | peerEvent | queuedEvent | returned | assertFailed =>
    rw [here] at position
    exact position

theorem Inv.areaAgent (h : Inv x) {source destination : Ag}
    (proper : ProperPeer source destination) :
    Inv { x with mPeers := processAreaAgent x.mPeers source destination } := by
  obtain ⟨named, short, writes, known, current, unopened, seen, position⟩ := h
  refine ⟨named, fun u info here => ?_, writes, known, current, unopened, seen, position⟩
  simp only [processAreaAgent] at here
  split at here
  · exact short u info here
  rename_i elite
  split at here
  · rename_i prof
    split at here
    · exact short u info here
    rename_i name found
    split at here
    · rename_i player
      have fits := proper (by simpa using elite) prof player.1
      rw [found] at fits
      rw [Std.ExtTreeMap.getElem?_insertIfNew] at here
      split at here
      · cases here
        exact fits
      · exact short u info here
    · exact short u info here
  · exact short u info (Lib.Reconcile.getElem?_erase_eq_some.mp here).2

theorem Inv.localEvent (h : Inv x) (c : Enums) (event : CbtEvent) :
    Inv (x.processLocalEvent c event) := by
  obtain ⟨named, short, writes, known, current, unopened, seen, position⟩ := h
  unfold processLocalEvent queueEvent
  split
  · split
    · exact ⟨named, short, writes, known, current, unopened, seen, position⟩
    · exact ⟨named, short, writes, known, current, unopened, seen, position⟩
  · exact ⟨named, short, writes, known, current, unopened, seen, position⟩

theorem Inv.connect (h : Inv x) {context : ConnectionId} (fresh : context ∉ x.opened) :
    Inv (x.connect context) := by
  obtain ⟨named, short, writes, known, current, unopened, seen, -⟩ := h
  have quiet : x.queue.countP (Tag.writes context) = 0 := by
    rw [List.countP_eq_zero]
    intro tag mem writes
    simp only [Tag.writes, decide_eq_true_eq] at writes
    exact fresh (writes.1 ▸ known tag mem)
  constructor
  · exact named
  · exact short
  · intro c
    have old := writes c
    simp only [Client.connect, List.countP_cons, Tag.writes, CallDataType.isWrite,
      Function.update_apply]
    grind
  · simpa [Client.connect] using fun tag mem => .inr (known tag mem)
  · intro c here
    simp only [Client.connect, Option.some.injEq] at here
    simp [Client.connect, here]
  · intro c out
    simp only [Client.connect, List.mem_cons, not_or] at out
    simp only [Client.connect, Function.update_of_ne out.1]
    exact unopened c out.2
  · intro c told
    simp only [Client.connect, Function.update_apply] at told ⊢
    grind
  · trivial

theorem branch_send {context : ConnectionId} (h : x.branch = .send context) :
    x.mConnectionContext = some context ∧ (x.contexts context).writePending = false := by
  unfold branch at h
  grind

theorem Inv.checkSelf (h : Inv x) {context : ConnectionId}
    (here : x.position = .selfInfo context) : Inv (x.checkSelf context) := by
  have stands := h.stands here
  have seen := h.seen context
  have named := h.named
  unfold Client.checkSelf
  dsimp only
  split
  · rename_i differs
    split
    · grind
    · rename_i proper
      simp only [not_or] at proper
      exact h.goto _ ⟨stands, by simpa [CallData.fits] using (named proper.1).2, proper.1, proper.1,
        rfl, differs⟩
  rename_i same
  split
  · rename_i told
    rw [not_not] at same
    exact h.goto _ ⟨stands, same, same ▸ told⟩
  · exact h.goto .asyncNext trivial

theorem Inv.checkPeers (h : Inv x) {context : ConnectionId} {instanceId : UInt16}
    (here : x.position = .peerEvent context instanceId) :
    Inv (x.checkPeers context instanceId) := by
  obtain ⟨ready, told, proper⟩ := h.stands here
  have polls := tryGetPeerEvent_polls x.mPeers (x.contexts context).registeredPeers
  unfold Client.checkPeers
  split
  · exact h.goto _ ⟨ready, told, proper⟩
  · rename_i data registeredPeers event
    rw [event] at polls
    have due : data.fits = true ∧
        data.Due (x.contexts context).registeredInstanceId instanceId := by
      cases polls with
      | remove known outdated => exact ⟨rfl, told⟩
      | add known missing current => exact ⟨by simpa [CallData.fits] using h.short _ _ known, told⟩
    obtain ⟨named, short, writes, known, current, unopened, seen, -⟩ := h
    obtain ⟨opened, idle⟩ := ready
    constructor
    · exact named
    · exact short
    · grind
    · exact known
    · exact current
    · grind
    · grind
    · refine ⟨⟨opened, ?_⟩, due.1, seen context (told ▸ proper), proper, ?_⟩
      · grind
      · simpa [contexts_modify] using due.2
  · rename_i event
    rw [event] at polls
    cases polls

theorem Inv.checkQueue (h : Inv x) {context : ConnectionId} {instanceId : UInt16}
    (here : x.position = .queuedEvent context instanceId) :
    Inv (x.checkQueue context instanceId) := by
  obtain ⟨ready, told, proper⟩ := h.stands here
  unfold Client.checkQueue
  split
  · exact h.goto .asyncNext trivial
  · obtain ⟨named, short, writes, known, current, unopened, seen, -⟩ := h
    exact ⟨named, short, writes, known, current, unopened, seen, ready, rfl,
      seen context (told ▸ proper), proper, told⟩

theorem Inv.sendEvent (h : Inv x) {context : ConnectionId} {instanceId : UInt16} {data : CallData}
    (here : x.position = .sendEvent context instanceId data) : Inv (x.sendEvent context data) := by
  obtain ⟨⟨opened, idle⟩, fits, heard, proper, due⟩ := h.stands here
  obtain ⟨named, short, writes, known, current, unopened, seen, -⟩ := h
  have quiet : x.queue.countP (Tag.writes context) = 0 := by
    rw [writes, idle]
    rfl
  unfold Client.sendEvent
  constructor
  · exact named
  · exact short
  · intro c
    have old := writes c
    simp only [queue_goto, enqueue, List.countP_cons, Tag.writes, data.isWrite_type]
    grind
  · simpa [enqueue] using ⟨opened, known⟩
  · exact current
  · intro c out
    have other : c ≠ context := fun same => out (same ▸ opened)
    simpa [enqueue, contexts_modify, other] using unopened c out
  · intro c
    simp only [contexts_goto, enqueue, contexts_modify]
    grind
  · trivial

theorem inv_step (h : Inv x) (step : Step c x l y) : Inv y := by
  cases step with
  | localAgent proper => exact h.localAgent proper
  | areaAgent proper => exact h.areaAgent proper
  | localEvent event => exact h.localEvent c event
  | setEnabledStatus | setBudgetMode | shouldShutdown =>
    exact ⟨h.named, h.short, h.writes, h.known, h.current, h.unopened, h.seen, h.position⟩
  | timeout here => exact h.goto .branch trivial
  | gotEvent here queued => exact h.complete queued _ _
  | gotShutdown here shut drained => exact h.goto .returned trivial
  | nothing here branch => exact h.goto .asyncNext trivial
  | shutDown here branch =>
    exact ⟨h.named, h.short, h.writes, h.known, h.current, h.unopened, h.seen, trivial⟩
  | early here branch => exact h.goto .asyncNext trivial
  | connect here branch fresh => exact h.connect fresh
  | send here branch =>
    obtain ⟨current, idle⟩ := branch_send branch
    exact h.goto _ ⟨h.current _ current, idle⟩
  | checkSelf here => exact h.checkSelf here
  | checkPeers here => exact h.checkPeers here
  | checkQueue here => exact h.checkQueue here
  | sendEvent here fits => exact h.sendEvent here
  | tooLong here long =>
    obtain ⟨ready, fits, -⟩ := h.stands here
    cases fits.symm.trans long

theorem registered_step (h : Inv x) (step : Step c x l y) (silent : ∀ d, emitted d [l] = [])
    (d : ConnectionId) :
    (y.contexts d).registeredInstanceId = (x.contexts d).registeredInstanceId := by
  -- Only a message changes what a connection is registered as.
  cases step with
  | localAgent | areaAgent | setEnabledStatus | setBudgetMode | shouldShutdown | timeout
  | gotShutdown | nothing | shutDown | early | send | tooLong => rfl
  | localEvent event =>
    unfold processLocalEvent queueEvent
    grind
  | @gotEvent tag ok data here queued =>
    have handled := handled_handle { x with queue := x.queue.erase tag } tag ok data
    have same := handled.contexts d
    unfold complete release
    grind
  | connect here branch fresh =>
    have unopened := h.unopened d
    simp only [Client.connect, Function.update_apply]
    grind
  | checkSelf here =>
    unfold checkSelf
    grind
  | checkPeers here =>
    unfold checkPeers
    split
    · rfl
    · grind
    · rfl
  | checkQueue here =>
    unfold checkQueue
    split
    · rfl
    · rfl
  | @sendEvent context instanceId data here fits =>
    have loud := silent context
    simp [emitted] at loud

def Told (ls : List Label) (x : Client) : Prop :=
  ∀ d, Conforms (emitted d ls) ∧
    lastTold (emitted d ls) = idTold (x.contexts d).registeredInstanceId

theorem told_silent (h : Inv x) (told : Told ls x) (step : Step c x l y)
    (silent : ∀ d, emitted d [l] = []) : Told (ls ++ [l]) y := by
  intro d
  rw [emitted_snoc, silent, List.append_nil, registered_step h step silent]
  exact told d

theorem told_step (h : Inv x) (told : Told ls x) (step : Step c x l y) : Told (ls ++ [l]) y := by
  cases l with
  | internal | completed | opened => exact told_silent h told step fun _ => rfl
  | sent context instanceId m =>
    cases step with
    | @sendEvent _ _ data here fits =>
      intro d
      obtain ⟨conforms, last⟩ := told d
      rw [emitted_snoc]
      obtain ⟨ready, fits, heard, proper, due⟩ := h.stands here
      obtain ⟨follows, next⟩ := due.follows proper
      by_cases same : d = context
      · subst same
        rw [← last] at follows next
        have one : emitted d [.sent d instanceId
            (data.message (x.contexts d).registeredInstanceId).1] =
              [(instanceId, (data.message (x.contexts d).registeredInstanceId).1)] := by
          simp [emitted]
        rw [one, lastTold_snoc, next]
        exact ⟨conforms.snoc follows, by simp [Client.sendEvent, enqueue, contexts_modify]⟩
      · have none : emitted d [.sent context instanceId
            (data.message (x.contexts context).registeredInstanceId).1] = [] := by
          simp [emitted, Ne.symm same]
        rw [none, List.append_nil]
        exact ⟨conforms, by simpa [Client.sendEvent, enqueue, contexts_modify, same] using last⟩

theorem run_told (run : Run (Step c) {} ls x) : Told ls x := by
  have both : Inv x ∧ Told ls x :=
    run.history (P := fun ls x => Inv x ∧ Told ls x) (fun _ => True)
      (fun h _ step => ⟨inv_step h.1 step, told_step h.1 h.2 step⟩)
      ⟨inv_initial, fun d => ⟨.nil, rfl⟩⟩ (by simp)
  exact both.2

theorem run_short (run : Run (Step c) {} ls x) (d : ConnectionId) :
    ∀ p ∈ emitted d ls, p.2.Short := by
  induction run with
  | nil => simp [emitted]
  | @snoc ls y l z _ step ih =>
    rw [emitted_snoc]
    intro p mem
    cases List.mem_append.mp mem with
    | inl before => exact ih p before
    | inr new =>
      cases l with
      | internal | completed | opened => simp [emitted] at new
      | sent context instanceId m =>
        cases step with
        | sendEvent here fits =>
          simp only [emitted, List.mem_filterMap, List.mem_singleton, exists_eq_left,
            Option.ite_none_right_eq_some, Option.some.injEq] at new
          obtain ⟨rfl, rfl⟩ := new
          exact CallData.short_message fits _

end Steps

end Client

end ArcdpsHealing.Networking
