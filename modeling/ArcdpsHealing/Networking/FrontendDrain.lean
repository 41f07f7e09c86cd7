import ArcdpsHealing.Networking.FrontendInvariant

namespace ArcdpsHealing.Networking.Frontend

open Lib

variable {f g h : Frontend} {d : CallData} {client : ConnectionId} {threshold : UInt64}
  {ops later : List Op} {op : Op} {ok : Bool} {now now' : Int64} {data : List UInt8}

def lost (d : CallData) (ok : Bool) : List Op := [.next d ok, .check, .discard d]

def stopping : List Op :=
  [.start] ++ round ⟨0, .connect 0⟩ 0 0 [] ++
    [.shutdown, .newWakeUp, .setAlarm, .next ⟨2, .wakeUp⟩ true, .check, .closeQueue]

def stopped : List Op :=
  [.setShuttingDown, .discard ⟨2, .wakeUp⟩] ++ lost ⟨1, .readMessage 0⟩ false ++
    lost ⟨0, .connect 1⟩ false ++ [.drained]

theorem run_lost {f₀ : Frontend} (before : Run Step f₀ ops f) (looping : f.serving = .looping)
    (completed : d ∈ f.pending) (down : f.shutdownState = .shuttingDown) :
    Run Step f₀ (ops ++ lost d ok) (((f.take d ok).check d ok).resume.discard d) := by
  have handling : ((f.take d ok).check d ok).serving = .handling d ok :=
    if_neg (by rw [take, down]; rintro ⟨⟩)
  have taken : Run Step f₀ (ops ++ [.next d ok] ++ [.check]) ((f.take d ok).check d ok) :=
    .snoc (.snoc before (.next looping completed)) (.check rfl)
  have all : ops ++ lost d ok = ops ++ [.next d ok] ++ [.check] ++ [.discard d] := by
    simp [lost]
  rw [all]
  exact taken.snoc (.discard handling (.inr down))

theorem stopping_stopped : ∃ f g, Run Step (initial 30000) stopping f ∧ Run Step f stopped g ∧
    f.closed = true ∧ g.serving = .returned := by
  have started : Run Step (initial 30000) [.start] (initial 30000).start := .snoc .nil (.start rfl)
  have connected := run_round ⟨0, .connect 0⟩ 0 0 [] started rfl (.head _) rfl
  refine ⟨_, _, .snoc (.snoc (.snoc (.snoc (.snoc (.snoc connected (.shutdown rfl))
    (.newWakeUp rfl)) (.setAlarm rfl)) (.next rfl (.tail _ (.tail _ (.head _))))) (.check rfl))
    (.closeQueue rfl), .snoc (run_lost (run_lost (.snoc (.snoc .nil (.setShuttingDown rfl))
      (.discard rfl (.inr rfl))) rfl (.head _) rfl) rfl (.head _) rfl) (.drained rfl rfl rfl),
    rfl, rfl⟩

section Returned

def Returned (f : Frontend) : Prop :=
  f.serving = .returned → f.closed = true ∧ ∀ d ∈ f.pending, d.tag = .wakeUp

theorem returned_step (before : Returned f) (step : Step f op g) : Returned g := by
  cases step with
  | start => rintro ⟨⟩
  | next => rintro ⟨⟩
  | check =>
    intro returned
    unfold Frontend.check at returned
    dsimp only at returned
    split at returned <;> cases returned
  | closeQueue => rintro ⟨⟩
  | setShuttingDown => rintro ⟨⟩
  | @discard d ok handling late =>
    intro returned
    have kept : Kept f.resume (f.resume.discard d) := .discard d
    cases kept.serving.symm.trans returned
  | @process d now now' data handling online =>
    intro returned
    have kept : Kept f.resume (f.resume.process d now now' data) := .process d
    cases kept.serving.symm.trans returned
  | drained looping closed empty =>
    refine fun _ => ⟨closed, fun d mem => ?_⟩
    rw [empty] at mem
    cases mem
  | shutdown online => exact before
  | shutdownAgain => exact before
  | newWakeUp => exact before
  | @setAlarm address made =>
    intro returned
    obtain ⟨closed, wakeUp⟩ := before returned
    refine ⟨closed, fun d mem => ?_⟩
    cases List.mem_append.mp mem with
    | inl old => exact wakeUp d old
    | inr new => rw [List.mem_singleton.mp new]

theorem run_returned (run : Run Step (initial threshold) ops f) : Returned f := by
  induction run with
  | nil => rintro ⟨⟩
  | snoc before step ih => exact returned_step ih step

/-- When the loop has returned, every object that was ever made has been deleted
once, but for a wake-up whose alarm was too late, and nobody is registered. -/
theorem nothing_left (run : Run Step (initial threshold) ops f) (returned : f.serving = .returned) :
    (f.deleted ++ f.alarm.toList ++ f.pending.map (·.address)).Perm (List.range f.allocated) ∧
      (∀ d ∈ f.pending, d.tag = .wakeUp) ∧ f.alarm.toList.length + f.pending.length ≤ 1 ∧
      f.server.registeredAgents = ∅ ∧
      ∀ client, (f.server.connections client).iterator = none := by
  have inv := run_inv run
  rw [returned] at inv
  obtain ⟨closed, wakeUp⟩ := run_returned run returned
  have down : f.shutdownState = .shuttingDown := by
    refine (inv.closed.mp closed).resolve_right ?_
    rw [returned]
    rintro ⟨_, _, ⟨⟩⟩
  have unregistered (client : ConnectionId) : (f.server.connections client).iterator = none := by
    cases registered : (f.server.connections client).iterator with
    | none => rfl
    | some it =>
      have reading := inv.registered client (by rw [registered]; rfl)
      obtain ⟨d, mem, tag⟩ := List.mem_map.mp (List.count_pos_iff.mp reading)
      cases tag.symm.trans (wakeUp d mem)
  have one : f.alarm.toList.length + f.pending.length ≤ 1 := by
    have woken := inv.woken
    rw [if_neg (by rw [down]; rintro ⟨⟩)] at woken
    have all : f.total Serving.returned.held .wakeUp = f.pending.length := by
      rw [← List.length_map (·.tag)]
      exact List.count_eq_length.mpr fun t mem => by
        obtain ⟨d, here, rfl⟩ := List.mem_map.mp mem
        exact (wakeUp d here).symm
    omega
  refine ⟨inv.conserved, wakeUp, one, ?_, unregistered⟩
  apply Std.ExtTreeMap.ext_getElem?
  intro name
  rw [Std.ExtTreeMap.getElem?_empty]
  cases found : f.server.find name with
  | none => exact found
  | some entry =>
    have registered := (inv.consistent.paired name entry.node entry.client).mp found
    cases registered.symm.trans (unregistered entry.client)

theorem nothing_left_stopped : ∃ f, Run Step (initial 30000) (stopping ++ stopped) f ∧
    (f.deleted ++ f.alarm.toList ++ f.pending.map (·.address)).Perm (List.range f.allocated) ∧
      (∀ d ∈ f.pending, d.tag = .wakeUp) ∧ f.alarm.toList.length + f.pending.length ≤ 1 ∧
      f.server.registeredAgents = ∅ ∧
      ∀ client, (f.server.connections client).iterator = none := by
  obtain ⟨_, g, run, rest, -, returned⟩ := stopping_stopped
  exact ⟨g, run.trans rest, nothing_left (run.trans rest) returned⟩

end Returned

section Late

/-- The queue has been shut down before the alarm was set. -/
def Raced (ops : List Op) : Prop := [Op.closeQueue, .setAlarm].Sublist ops

theorem raced_snoc : Raced (ops ++ [op]) ↔ Raced ops ∨ op = .setAlarm ∧ .closeQueue ∈ ops := by
  rw [Raced, ← List.singleton_sublist, eq_comm (a := op)]
  exact sublist_snoc (l := [Op.closeQueue])

structure Asked (ops : List Op) (f : Frontend) : Prop where
  closed : f.closed = true ↔ .closeQueue ∈ ops
  late : f.late ≠ [] ↔ Raced ops
  once : f.late.length + f.alarm.toList.length + f.waking.toNat ≤
    if f.shutdownState = .online then 0 else 1
  wakeUp : ∀ t ∈ f.late, t = .wakeUp

theorem Asked.keep (before : Asked ops f) (state : g.shutdownState = f.shutdownState)
    (waking : g.waking = f.waking) (alarm : g.alarm = f.alarm) (closed : g.closed = f.closed)
    (late : g.late = f.late) (closeQueue : op ≠ .closeQueue) (setAlarm : op ≠ .setAlarm) :
    Asked (ops ++ [op]) g := by
  constructor
  · rw [closed, before.closed, List.mem_append, List.mem_singleton]
    exact (or_iff_left closeQueue.symm).symm
  · rw [late, raced_snoc, before.late]
    exact (or_iff_left fun both => setAlarm both.1).symm
  · rw [late, alarm, waking, state]
    exact before.once
  · rw [late]
    exact before.wakeUp

theorem asked_step (inv : Inv f.late f f.serving.held) (before : Asked ops f)
    (step : Step f op g) : Asked (ops ++ [op]) g := by
  have once := before.once
  cases step with
  | start idle =>
    exact before.keep rfl rfl rfl rfl (late_begin (inv.idle idle).1) (by rintro ⟨⟩) (by rintro ⟨⟩)
  | next => exact before.keep rfl rfl rfl rfl rfl (by rintro ⟨⟩) (by rintro ⟨⟩)
  | check => exact before.keep rfl rfl rfl rfl rfl (by rintro ⟨⟩) (by rintro ⟨⟩)
  | closeQueue =>
    constructor
    · exact iff_of_true rfl (List.mem_append_right _ List.mem_cons_self)
    · exact before.late.trans (raced_snoc.trans (or_iff_left (by rintro ⟨⟨⟩, -⟩))).symm
    · exact once
    · exact before.wakeUp
  | setShuttingDown stopped =>
    have asked := inv.asked (.inr stopped)
    constructor
    · rw [List.mem_append, List.mem_singleton]
      exact before.closed.trans (or_iff_left (by rintro ⟨⟩)).symm
    · exact before.late.trans (raced_snoc.trans (or_iff_left (by rintro ⟨⟨⟩, -⟩))).symm
    · rw [asked] at once
      rw [setShuttingDown, asked]
      exact once
    · exact before.wakeUp
  | @discard d ok handling late =>
    rw [handling] at inv
    have done := (inv.resume handling).discard rfl
    obtain ⟨state, waking, alarm, closed, -⟩ : Kept f.resume (f.resume.discard d) := .discard d
    exact before.keep state waking alarm closed done.late (by rintro ⟨⟩) (by rintro ⟨⟩)
  | @process d now now' data handling online =>
    rw [handling] at inv
    have resumed := inv.resume handling
    have done := resumed.process rfl (resumed.opened online (by rintro _ _ ⟨⟩)) now now' data
    obtain ⟨state, waking, alarm, closed, -⟩ : Kept f.resume (f.resume.process d now now' data) :=
      .process d
    exact before.keep state waking alarm closed done.late (by rintro ⟨⟩) (by rintro ⟨⟩)
  | drained => exact before.keep rfl rfl rfl rfl rfl (by rintro ⟨⟩) (by rintro ⟨⟩)
  | shutdown online =>
    rw [if_pos online] at once
    constructor
    · rw [List.mem_append, List.mem_singleton]
      exact before.closed.trans (or_iff_left (by rintro ⟨⟩)).symm
    · exact before.late.trans (raced_snoc.trans (or_iff_left (by rintro ⟨⟨⟩, -⟩))).symm
    · exact Nat.add_le_add_right ((Nat.le_add_right _ _).trans once) 1
    · exact before.wakeUp
  | shutdownAgain => exact before.keep rfl rfl rfl rfl rfl (by rintro ⟨⟩) (by rintro ⟨⟩)
  | newWakeUp waking =>
    constructor
    · rw [List.mem_append, List.mem_singleton]
      exact before.closed.trans (or_iff_left (by rintro ⟨⟩)).symm
    · exact before.late.trans (raced_snoc.trans (or_iff_left (by rintro ⟨⟨⟩, -⟩))).symm
    · rw [inv.unset waking, waking] at once
      exact once
    · exact before.wakeUp
  | @setAlarm address made =>
    rw [made] at once
    have late : (f.begin ⟨address, .wakeUp⟩).late =
      if f.closed = true then f.late ++ [.wakeUp] else f.late := rfl
    constructor
    · rw [List.mem_append, List.mem_singleton]
      exact before.closed.trans (or_iff_left (by rintro ⟨⟩)).symm
    · rw [raced_snoc, ← before.closed, ← before.late]
      refine (congrArg (· ≠ []) late).to_iff.trans ?_
      split
      · rename_i closed
        simp [closed]
      · rename_i opened
        simp [opened]
    · have most : (f.begin ⟨address, .wakeUp⟩).late.length ≤ f.late.length + 1 := by
        rw [late]
        split <;> simp
      exact (Nat.add_le_add_right most _).trans once
    · intro t mem
      have mem : t ∈ (f.begin ⟨address, .wakeUp⟩).late := mem
      rw [late] at mem
      split at mem
      · exact (List.mem_append.mp mem).elim (before.wakeUp t) List.mem_singleton.mp
      · exact before.wakeUp t mem

theorem run_asked (run : Run Step (initial threshold) ops f) : Asked ops f := by
  induction run with
  | nil =>
    constructor
    · exact iff_of_false (by rintro ⟨⟩) (by rintro ⟨⟩)
    · exact iff_of_false (fun other => other rfl) (by rintro ⟨⟩)
    · exact Nat.zero_le _
    · rintro t ⟨⟩
  | snoc before step ih => exact asked_step (run_inv before) ih step

/-- The queue is used after it has been shut down exactly if the loop shuts it down
before `Shutdown` sets its alarm, and then for this alarm alone. -/
theorem late_iff (run : Run Step (initial threshold) ops f) :
    (f.late = [] ∨ f.late = [.wakeUp]) ∧ (f.late = [.wakeUp] ↔ Raced ops) := by
  obtain ⟨-, late, once, wakeUp⟩ := run_asked run
  cases begun : f.late with
  | nil =>
    rw [begun] at late
    exact ⟨.inl rfl, iff_of_false (by rintro ⟨⟩) fun raced => late.mpr raced rfl⟩
  | cons t ts =>
    rw [begun] at late once wakeUp
    have empty : ts = [] := by
      rw [List.length_cons] at once
      rw [← List.length_eq_zero_iff]
      split at once <;> omega
    rw [empty, wakeUp t List.mem_cons_self]
    exact ⟨.inr rfl, iff_of_true rfl (late.mp (List.cons_ne_nil t ts))⟩

theorem late_iff_raced :
    let ops := [Op.start, .shutdown, .next ⟨0, .connect 0⟩ true, .check, .newWakeUp, .closeQueue,
      .setAlarm]
    ∃ f, Run Step (initial 30000) ops f ∧ (f.late = [] ∨ f.late = [.wakeUp]) ∧
      (f.late = [.wakeUp] ↔ Raced ops) ∧ f.late = [.wakeUp] := by
  intro ops
  obtain ⟨f, run, late⟩ : ∃ f, Run Step (initial 30000) ops f ∧ f.late = [.wakeUp] :=
    ⟨_, .snoc (.snoc (.snoc (.snoc (.snoc (.snoc (.snoc .nil (.start rfl)) (.shutdown rfl))
      (.next rfl (.head _))) (.check rfl)) (.newWakeUp rfl)) (.closeQueue rfl)) (.setAlarm rfl),
      rfl⟩
  obtain ⟨one, raced⟩ := late_iff run
  exact ⟨f, run, one, raced, late⟩

end Late

section Drain

def Op.isNext : Op → Bool
  | .next _ _ => true
  | _ => false

/-- The completions that are under way, or that `Shutdown` is about to bring. -/
def remaining (f : Frontend) : Nat :=
  f.pending.length + f.alarm.toList.length + f.waking.toNat

theorem discard_shuttingDown (down : f.shutdownState = .shuttingDown) (d : CallData) :
    (f.discard d).pending = f.pending ∧ (f.discard d).allocated = f.allocated ∧
      (f.discard d).issued = f.issued := by
  -- Nothing new is begun while the loop shuts down.
  unfold discard
  split
  · rename_i client tag
    have shuttingDown : Frontend.isShuttingDown
        { f with server := f.server.forceDisconnect client } = true := decide_eq_true down
    have silent : ((f.interfaces client).forceDisconnect true "shutdown by client").2 = [] := by
      unfold ConnectionInterface.forceDisconnect
      split <;> rfl
    have asked : (f.forceDisconnect "shutdown by client" client) =
        Frontend.perform { f with server := f.server.forceDisconnect client } client
          ((f.interfaces client).forceDisconnect true "shutdown by client") := by
      unfold forceDisconnect interfaceForceDisconnect
      rw [shuttingDown]
      dsimp only
      split <;> rfl
    rw [asked]
    refine ⟨rfl, rfl, ?_⟩
    have same : Function.update f.issued client (f.issued client ++
        ((f.interfaces client).forceDisconnect true "shutdown by client").2) = f.issued := by
      rw [silent, List.append_nil, Function.update_eq_self]
    exact same
  · exact ⟨rfl, rfl, rfl⟩

structure Drains (f : Frontend) (ops : List Op) (g : Frontend) : Prop where
  closed : g.closed = true
  taken : ops.countP Op.isNext + g.remaining = f.remaining
  allocated : g.allocated + g.waking.toNat = f.allocated + f.waking.toNat
  issued : g.issued = f.issued

theorem drains_step (inv : Inv g.late g g.serving.held) (before : Drains f ops g)
    (step : Step g op h) : Drains f (ops ++ [op]) h := by
  obtain ⟨closed, taken, allocated, issued⟩ := before
  have down {d : CallData} {ok : Bool} (handling : g.serving = .handling d ok) :
      g.shutdownState = .shuttingDown := by
    refine (inv.closed.mp closed).resolve_right ?_
    rw [handling]
    rintro ⟨_, _, ⟨⟩⟩
  have count : (ops ++ [op]).countP Op.isNext = ops.countP Op.isNext + [op].countP Op.isNext :=
    List.countP_append
  -- All but a completion that is taken leave the sum as it was.
  have still (other : op.isNext = false) (same : h.remaining = g.remaining) :
      (ops ++ [op]).countP Op.isNext + h.remaining = f.remaining := by
    rw [count, List.countP_singleton, other, same]
    exact taken
  cases step with
  | start idle =>
    rw [(inv.idle idle).1] at closed
    cases closed
  | @next d ok looping completed =>
    refine ⟨closed, ?_, allocated, issued⟩
    have fewer := List.length_erase_add_one completed
    have erased : (g.take d ok).remaining =
        (g.pending.erase d).length + g.alarm.toList.length + g.waking.toNat := rfl
    have one : [Op.next d ok].countP Op.isNext = 1 := rfl
    rw [count, one, erased, ← taken, remaining]
    omega
  | check => exact ⟨closed, still rfl rfl, allocated, issued⟩
  | closeQueue => exact ⟨rfl, still rfl rfl, allocated, issued⟩
  | setShuttingDown => exact ⟨closed, still rfl rfl, allocated, issued⟩
  | @discard d ok handling late =>
    obtain ⟨pending, kept, asked⟩ := discard_shuttingDown (f := g.resume) (down handling) d
    obtain ⟨-, waking, alarm, closed', -⟩ : Kept g.resume (g.resume.discard d) := .discard d
    refine ⟨closed'.trans closed, still rfl ?_, ?_, asked.trans issued⟩
    · rw [remaining, remaining, pending, alarm, waking]
      rfl
    · rw [kept, waking]
      exact allocated
  | process handling online => exact absurd (down handling) online
  | drained => exact ⟨closed, still rfl rfl, allocated, issued⟩
  | shutdown online =>
    obtain down | ⟨d, ok, stopped⟩ := inv.closed.mp closed
    · cases online.symm.trans down
    · cases online.symm.trans (inv.asked (.inr stopped))
  | shutdownAgain => exact ⟨closed, still rfl rfl, allocated, issued⟩
  | newWakeUp waking =>
    rw [waking] at allocated
    refine ⟨closed, still rfl ?_, allocated, issued⟩
    rw [remaining, remaining, inv.unset waking, waking]
    rfl
  | @setAlarm address made =>
    refine ⟨closed, still rfl ?_, allocated, issued⟩
    have more : (g.begin ⟨address, .wakeUp⟩).pending.length = g.pending.length + 1 :=
      List.length_append
    rw [remaining, remaining, made]
    exact congrArg (· + g.waking.toNat) more

/-- Once the queue has been shut down, the loop takes as many completions as were
under way. Nothing is allocated but the object of a `Shutdown` that had come so far,
and nothing is asked of a stream any more. -/
theorem drains (run : Run Step (initial threshold) ops f) (closed : f.closed = true)
    (rest : Run Step f later g) :
    later.countP Op.isNext + g.remaining = f.remaining ∧
      g.allocated + g.waking.toNat = f.allocated + f.waking.toNat ∧ g.issued = f.issued := by
  have drained : Drains f later g := by
    induction rest with
    | nil => exact ⟨closed, Nat.zero_add _, rfl, rfl⟩
    | snoc before step ih => exact drains_step (run_inv (run.trans before)) ih step
  exact ⟨drained.taken, drained.allocated, drained.issued⟩

theorem drains_stopped : ∃ f g, Run Step f stopped g ∧
    stopped.countP Op.isNext + g.remaining = f.remaining ∧
      g.allocated + g.waking.toNat = f.allocated + f.waking.toNat ∧ g.issued = f.issued := by
  obtain ⟨f, g, run, rest, closed, -⟩ := stopping_stopped
  exact ⟨f, g, rest, drains run closed rest⟩

end Drain

end ArcdpsHealing.Networking.Frontend
