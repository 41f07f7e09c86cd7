import ArcdpsHealing.Networking.Frontend

namespace ArcdpsHealing.Networking.Frontend

open Lib

def outstanding (f : Frontend) (client : ConnectionId) : Nat :=
  ((f.serving.held ++ f.pending).map (·.tag)).count (.writeEvent client)

def view (f : Frontend) (client : ConnectionId) : Stream where
  connection := f.interfaces client
  isShuttingDown := f.isShuttingDown
  issued := f.issued client
  outstanding := f.outstanding client

def Follows (f g : Frontend) : Prop :=
  ∀ client, ∃ ops, Run Stream.Step (f.view client) ops (g.view client)

variable {f g h : Frontend} {client c : ConnectionId}

theorem Follows.trans (first : Follows f g) (second : Follows g h) : Follows f h := by
  intro client
  obtain ⟨ops, run⟩ := first client
  obtain ⟨ops', run'⟩ := second client
  exact ⟨ops ++ ops', run.trans run'⟩

theorem follows_of_view (same : ∀ client, g.view client = f.view client) : Follows f g := by
  intro client
  rw [same client]
  exact ⟨[], .nil⟩

theorem Follows.rfl : Follows f f := follows_of_view fun _ => .refl _

section Begin

variable (d : CallData)

theorem outstanding_begin : (f.begin d).outstanding client =
    f.outstanding client + if d.tag = .writeEvent client then 1 else 0 := by
  simp [outstanding, begin, ← List.append_assoc, List.count_append, List.count_singleton]

theorem outstanding_resume {ok : Bool} (client : ConnectionId)
    (handling : f.serving = .handling d ok) : f.outstanding client =
      f.resume.outstanding client + if d.tag = .writeEvent client then 1 else 0 := by
  have resumed : f.resume.outstanding client =
      (f.pending.map (·.tag)).count (.writeEvent client) := rfl
  rw [resumed, outstanding, handling]
  exact List.count_cons.trans (by simp)

theorem outstanding_take {ok : Bool} (client : ConnectionId) (looping : f.serving = .looping)
    (mem : d ∈ f.pending) : (f.take d ok).outstanding client = f.outstanding client := by
  have perm := (List.perm_cons_erase mem).map (·.tag)
  rw [outstanding, outstanding, looping]
  exact (perm.count_eq _).symm

theorem view_begin_ne (other : d.tag ≠ .writeEvent c) : (f.begin d).view c = f.view c := by
  have same : (f.begin d).outstanding c = f.outstanding c :=
    (outstanding_begin d).trans (congrArg (f.outstanding c + ·) (if_neg other))
  rw [view, same]
  rfl

theorem follows_begin (other : ∀ client, d.tag ≠ .writeEvent client) : Follows f (f.begin d) :=
  follows_of_view fun client => view_begin_ne d (other client)

theorem follows_beginNew {tag : Tag} (other : ∀ client, tag ≠ .writeEvent client) :
    Follows f (f.beginNew tag) :=
  follows_begin (f := { f with allocated := f.allocated + 1 }) _ other

end Begin

section Perform

variable (r : ConnectionInterface × List StreamCall)

theorem view_perform_ne (other : c ≠ client) : (f.perform client r).view c = f.view c := by
  unfold view
  rw [interfaces_perform_ne r other, issued_perform_ne r other]
  rfl

theorem view_perform (silent : r.2.countP StreamCall.isWrite = 0) :
    (f.perform client r).view client = (f.view client).issue r := by
  unfold view Stream.issue
  rw [silent]
  congr 1
  · exact Function.update_self _ _ _
  · exact Function.update_self _ _ _

theorem view_perform_begin {d : CallData} (tag : d.tag = .writeEvent client)
    (writes : r.2.countP StreamCall.isWrite = 1)
    (same : g.interfaces = (f.perform client r).interfaces)
    (issued : g.issued = (f.perform client r).issued) (pending : g.pending = f.pending)
    (serving : g.serving = f.serving) (state : g.shutdownState = f.shutdownState) :
    (g.begin d).view client = (f.view client).issue r := by
  have count : g.outstanding client = f.outstanding client := by
    rw [outstanding, pending, serving]
    rfl
  unfold view Stream.issue
  rw [outstanding_begin, if_pos tag, count, writes]
  congr 1
  · exact (congrFun same client).trans (Function.update_self _ _ _)
  · exact congrArg (fun state => decide (state = ShutdownState.shuttingDown)) state
  · exact (congrFun issued client).trans (Function.update_self _ _ _)

end Perform

theorem follows_of_step (client : ConnectionId) (op : Stream.Op)
    (step : Stream.Step (f.view client) op (g.view client))
    (others : ∀ c ≠ client, g.view c = f.view c) : Follows f g := by
  intro c
  by_cases same : c = client
  · subst same
    exact ⟨[op], .snoc .nil step⟩
  · rw [others c same]
    exact ⟨[], .nil⟩

theorem view_beginNew_ne {tag : Tag} (other : tag ≠ .writeEvent c) :
    (f.beginNew tag).view c = f.view c :=
  view_begin_ne (f := { f with allocated := f.allocated + 1 }) ⟨f.allocated, tag⟩ other

theorem follows_sendEventToClient (s : Send) : Follows f (f.sendEventToClient s) := by
  have step : Stream.Step (f.view s.peer) (.sendEventToClient s.event s.senderInstanceId) _ :=
    .sendEventToClient
  refine follows_of_step s.peer (.sendEventToClient s.event s.senderInstanceId)
    ?_ fun c other => ?_
  · convert step using 1
    cases writing : (f.interfaces s.peer).writePending with
    | true =>
      rw [sendEventToClient_pending writing]
      refine view_perform _ ?_
      simp [ConnectionInterface.sendEventToClient, writing]
    | false =>
      rw [sendEventToClient_free writing]
      refine view_perform_begin _ (d := ⟨_, .writeEvent s.peer⟩) rfl ?_ rfl rfl rfl rfl rfl
      simp [ConnectionInterface.sendEventToClient, ConnectionInterface.sendEvent, view, writing]
  · unfold sendEventToClient
    dsimp only
    split
    · rw [view_beginNew_ne, view_perform_ne _ other]
      rintro ⟨⟩
      exact other rfl
    · exact view_perform_ne _ other

theorem follows_interfaceForceDisconnect (errorMessage : String) (client : ConnectionId) :
    Follows f (f.interfaceForceDisconnect errorMessage client) := by
  have step : Stream.Step (f.view client) (.forceDisconnect errorMessage) _ := .forceDisconnect
  have silent : ((f.interfaces client).forceDisconnect f.isShuttingDown
      errorMessage).2.countP StreamCall.isWrite = 0 := by
    unfold ConnectionInterface.forceDisconnect
    split
    · rfl
    · split <;> rfl
  refine follows_of_step client (.forceDisconnect errorMessage) ?_
    fun c other => ?_
  · convert step using 1
    unfold interfaceForceDisconnect
    dsimp only
    split
    · exact view_perform _ silent
    · split
      · exact view_perform _ silent
      · rw [view_beginNew_ne (by rintro ⟨⟩)]
        exact view_perform _ silent
  · unfold interfaceForceDisconnect
    dsimp only
    split
    · exact view_perform_ne _ other
    · split
      · exact view_perform_ne _ other
      · rw [view_beginNew_ne (by rintro ⟨⟩)]
        exact view_perform_ne _ other

theorem follows_forceDisconnect (errorMessage : String) (client : ConnectionId) :
    Follows f (f.forceDisconnect errorMessage client) :=
  .trans (g := { f with server := f.server.forceDisconnect client })
    (follows_of_view fun _ => rfl) (follows_interfaceForceDisconnect errorMessage client)

theorem follows_supersede (m : Message) : Follows f (f.supersede m) := by
  unfold supersede
  split
  · split
    · exact follows_interfaceForceDisconnect _ _
    · exact .rfl
  · exact .rfl

theorem follows_sends (sends : List Send) : Follows f (sends.foldl sendEventToClient f) := by
  induction sends generalizing f with
  | nil => exact .rfl
  | cons s sends ih => exact (follows_sendEventToClient s).trans ih

theorem Handles.follows {data : List UInt8} {sends : List Send}
    (handles : Handles f client data sends g) : Follows f g := by
  cases handles with
  | ignored => exact .rfl
  | rejected errorMessage => exact follows_forceDisconnect errorMessage client
  | @accepted now now' m s sends =>
    exact (follows_supersede m).trans
      ((follows_of_view (g := { f.supersede m with server := s }) fun _ => rfl).trans
        ((follows_sends sends).trans (follows_of_view fun _ => rfl)))

theorem follows_serving {serving : Serving} (held : serving.held = f.serving.held) :
    Follows f { f with serving := serving } := by
  refine follows_of_view fun client => ?_
  have same : Frontend.outstanding { f with serving := serving } client = f.outstanding client := by
    unfold outstanding
    rw [held]
  rw [view, view, same]
  rfl

theorem follows_setShuttingDown {d : CallData} {ok : Bool} (stopped : f.serving = .stopped d ok) :
    Follows f (f.setShuttingDown d ok) := by
  have moved : Follows f { f with serving := .handling d ok } :=
    follows_serving (by rw [stopped]; rfl)
  unfold setShuttingDown
  split
  · refine moved.trans fun client => ?_
    exact ⟨[.shutDown], .snoc .nil .shutDown⟩
  · exact moved

theorem follows_requestConnect (address : Nat) : Follows f (f.requestConnect address) :=
  .trans (g := { f with contexts := f.contexts + 1 }) (follows_of_view fun _ => rfl)
    (follows_begin _ fun _ => by rintro ⟨⟩)

section Completion

variable {d : CallData} {ok : Bool} (handling : f.serving = .handling d ok)

include handling

theorem follows_resume (other : ∀ client, d.tag ≠ .writeEvent client) : Follows f f.resume := by
  refine follows_of_view fun client => ?_
  have same := outstanding_resume d client handling
  rw [if_neg (other client), Nat.add_zero] at same
  rw [view, view, same]
  rfl

theorem view_resume_write (tag : d.tag = .writeEvent client) :
    0 < f.outstanding client ∧ f.resume.view client =
      { f.view client with outstanding := f.outstanding client - 1 } := by
  have count := outstanding_resume d client handling
  rw [if_pos tag] at count
  refine ⟨by omega, ?_⟩
  have same : f.resume.outstanding client = f.outstanding client - 1 := by omega
  rw [view, same]
  rfl

theorem view_resume_ne (tag : d.tag = .writeEvent client) (other : c ≠ client) :
    f.resume.view c = f.view c := by
  have count := outstanding_resume d c handling
  rw [if_neg (by rw [tag]; rintro ⟨⟩; exact other rfl), Nat.add_zero] at count
  rw [view, view, count]
  rfl

theorem follows_discard (late : ok = false ∨ f.shutdownState = .shuttingDown) :
    Follows f (f.resume.discard d) := by
  unfold discard
  split
  · rename_i client tag
    refine (follows_resume handling fun c => by rw [tag]; rintro ⟨⟩).trans ?_
    exact (follows_forceDisconnect _ client).trans (follows_of_view fun _ => rfl)
  · cases tag : d.tag with
    | writeEvent client =>
      obtain ⟨waiting, completed⟩ := view_resume_write handling tag
      refine follows_of_step client (.writeCompleted ok) ?_
        fun c other => view_resume_ne handling tag other
      have dropped : ok = false ∨ (f.view client).isShuttingDown = true :=
        late.imp_right decide_eq_true
      have step := Stream.Step.dropWriteEvent (x := f.view client) waiting dropped
      exact (congrArg (Stream.Step _ _) completed).mpr step
    | _ =>
      refine (follows_resume handling fun c => by rw [tag]; rintro ⟨⟩).trans ?_
      exact follows_of_view fun _ => rfl

theorem follows_handleWriteEvent (tag : d.tag = .writeEvent client)
    (online : f.shutdownState ≠ .shuttingDown) :
    Follows f (f.resume.handleWriteEvent d client) := by
  obtain ⟨waiting, completed⟩ := view_resume_write handling tag
  have step : Stream.Step (f.view client) (.writeCompleted true)
      ((f.resume.view client).issue (f.interfaces client).handleWriteEvent) := by
    rw [completed]
    exact .handleWriteEvent waiting (decide_eq_false online)
  have others (c : ConnectionId) (other : c ≠ client) :
      (f.resume.perform client (f.interfaces client).handleWriteEvent).view c = f.view c :=
    (view_perform_ne _ other).trans (view_resume_ne handling tag other)
  cases queue : (f.interfaces client).queuedEvents with
  | nil =>
    rw [handleWriteEvent_nil (f := f.resume) queue]
    refine follows_of_step client (.writeCompleted true) ?_ others
    convert step using 1
    refine view_perform _ ?_
    simp [ConnectionInterface.handleWriteEvent, resume, queue]
  | cons e rest =>
    rw [handleWriteEvent_cons (f := f.resume) queue]
    refine follows_of_step client (.writeCompleted true) ?_ fun c other => ?_
    · convert step using 1
      refine view_perform_begin _ tag ?_ rfl rfl rfl rfl rfl
      simp [ConnectionInterface.handleWriteEvent, ConnectionInterface.sendEvent, queue]
    · refine (view_begin_ne d ?_).trans (others c other)
      rw [tag]
      rintro ⟨⟩
      exact other rfl

theorem follows_process (online : f.shutdownState ≠ .shuttingDown) (now now' : Int64)
    (data : List UInt8) :
    Follows f (f.resume.process d now now' data) := by
  unfold process
  split
  · rename_i client tag
    refine (follows_resume handling fun c => by rw [tag]; rintro ⟨⟩).trans ?_
    have other (c : ConnectionId) : Tag.readMessage client ≠ .writeEvent c := by rintro ⟨⟩
    exact (follows_beginNew other).trans (follows_requestConnect _)
  · rename_i client tag
    refine (follows_resume handling fun c => by rw [tag]; rintro ⟨⟩).trans ?_
    exact (handleReadMessage_handles _ now now' data client).follows.trans
      (follows_begin d fun c => by rw [tag]; rintro ⟨⟩)
  · rename_i client tag
    exact follows_handleWriteEvent handling tag online
  · rename_i client tag
    refine (follows_resume handling fun c => by rw [tag]; rintro ⟨⟩).trans ?_
    exact follows_of_view fun _ => rfl
  · rename_i tag
    refine (follows_resume handling fun c => by rw [tag]; rintro ⟨⟩).trans ?_
    exact follows_of_view fun _ => rfl

end Completion

theorem Step.follows {op : Op} (step : Step f op g) : Follows f g := by
  cases step with
  | start idle =>
    refine .trans (g := { f with serving := .looping }) (follows_serving (by rw [idle]; rfl)) ?_
    exact .trans (follows_of_view fun _ => rfl) (follows_requestConnect f.allocated)
  | @next d ok looping completed =>
    refine follows_of_view fun client => ?_
    rw [view, view, outstanding_take d client looping completed]
    rfl
  | check taken =>
    refine follows_serving ?_
    rw [taken]
    split <;> rfl
  | @closeQueue d ok stopping =>
    have moved : Follows f { f with serving := .stopped d ok } :=
      follows_serving (by rw [stopping]; rfl)
    exact moved.trans (follows_of_view fun _ => rfl)
  | setShuttingDown stopped => exact follows_setShuttingDown stopped
  | discard handling late => exact follows_discard handling late
  | process handling online => exact follows_process handling online _ _ _
  | drained looping => exact follows_serving (by rw [looping]; rfl)
  | shutdown online =>
    refine follows_of_view fun client => ?_
    simp [view, isShuttingDown, online, outstanding]
  | shutdownAgain => exact .rfl
  | newWakeUp => exact follows_of_view fun _ => rfl
  | setAlarm =>
    exact (follows_begin _ fun _ => by rintro ⟨⟩).trans (follows_of_view fun _ => rfl)

theorem run_view {threshold : UInt64} {ops : List Op} (run : Run Step (initial threshold) ops f)
    (client : ConnectionId) : ∃ ops', Run Stream.Step {} ops' (f.view client) :=
  run.invariant (P := Follows (initial threshold)) (fun _ => True)
    (fun before _ step => before.trans step.follows) .rfl (fun _ _ => trivial) client

end ArcdpsHealing.Networking.Frontend
