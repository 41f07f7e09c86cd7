import ArcdpsHealing.Networking.FrontendStreams

namespace ArcdpsHealing.Networking.Frontend

open Lib

variable {f g h : Frontend} {held : List CallData} {d e : CallData} {client : ConnectionId}
  {t tag : Tag} {l : List Tag}

structure Kept (f g : Frontend) : Prop where
  shutdownState : g.shutdownState = f.shutdownState
  waking : g.waking = f.waking
  alarm : g.alarm = f.alarm
  closed : g.closed = f.closed
  serving : g.serving = f.serving

namespace Kept

theorem trans (first : Kept f g) (second : Kept g h) : Kept f h := by
  obtain ⟨h1, h2, h3, h4, h5⟩ := first
  obtain ⟨k1, k2, k3, k4, k5⟩ := second
  exact ⟨k1.trans h1, k2.trans h2, k3.trans h3, k4.trans h4, k5.trans h5⟩

theorem of_frame {s : Server} (frame : Frame { f with server := s } g) : Kept f g :=
  ⟨frame.shutdownState, frame.waking, frame.alarm, frame.closed, frame.serving⟩

theorem begin (d : CallData) : Kept f (f.begin d) := by constructor <;> exact .refl _

theorem delete (d : CallData) : Kept f (f.delete d) := by constructor <;> exact .refl _

theorem discard (d : CallData) : Kept f (f.discard d) := by
  unfold Frontend.discard
  split
  · exact (of_frame (frame_interfaceForceDisconnect _)).trans (.delete d)
  · exact .delete d

theorem process (d : CallData) : Kept f (f.process d now now' data) := by
  unfold Frontend.process
  split
  · constructor <;> exact .refl _
  · exact (of_frame (handleReadMessage_handles f now now' data _).frame).trans (.begin d)
  · unfold Frontend.handleWriteEvent
    dsimp only
    split <;> (constructor <;> exact .refl _)
  · exact .delete d
  · exact .delete d

end Kept

def total (f : Frontend) (held : List CallData) (t : Tag) : Nat :=
  ((held ++ f.pending).map (·.tag)).count t

def Conserved (f : Frontend) (held : List CallData) : Prop :=
  (f.deleted ++ f.alarm.toList ++ (held ++ f.pending).map (·.address)).Perm (List.range f.allocated)

/-- What holds between two operations, also while `Serve` has an object. -/
structure Inv (late : List Tag) (f : Frontend) (held : List CallData) : Prop where
  conserved : Conserved f held
  accepting : ∀ d ∈ held ++ f.pending, ∀ c, d.tag = .connect c → d.address = f.connectCallData
  accepted : ∀ c, f.total held (.connect c) + f.total held (.readMessage c) ≤
    if c < f.contexts then 1 else 0
  woken : f.total held .wakeUp + f.alarm.toList.length + f.waking.toNat ≤
    if f.shutdownState = .online then 0 else 1
  finishing : ∀ c, f.total held (.disconnect c) ≤
    if (f.interfaces c).forceDisconnected = true then 1 else 0
  registered : ∀ c, (f.server.connections c).iterator.isSome = true →
    0 < f.total held (.readMessage c)
  consistent : Consistent f.server
  closed : f.closed = true ↔ f.shutdownState = .shuttingDown ∨ ∃ d ok, f.serving = .stopped d ok
  asked : ∀ {d ok}, f.serving = .stopping d ok ∨ f.serving = .stopped d ok →
    f.shutdownState = .shouldShutdown
  late : f.late = late
  idle : f.serving = .notStarted → f.closed = false ∧ ∀ d ∈ held ++ f.pending, ∀ c,
    d.tag ≠ .connect c

section Total

theorem total_begin : (f.begin e).total held t =
    f.total held t + if e.tag = t then 1 else 0 := by
  simp [total, begin, ← List.append_assoc, List.count_append, List.count_singleton]

theorem total_beginNew : (f.beginNew tag).total held t =
    f.total held t + if tag = t then 1 else 0 := total_begin

theorem total_cons : f.total (d :: held) t = f.total held t + if d.tag = t then 1 else 0 := by
  simp [total, List.count_cons]

theorem total_take {ok : Bool} (mem : d ∈ f.pending) :
    (f.take d ok).total [d] t = f.total [] t :=
  (((List.perm_cons_erase mem).map CallData.tag).count_eq t).symm

theorem mem_begin {x : CallData} :
    x ∈ held ++ (f.begin e).pending ↔ x ∈ held ++ f.pending ∨ x = e := by
  rw [begin, ← List.append_assoc, List.mem_append, List.mem_singleton]

theorem below_succ (c n : Nat) : (if c < n + 1 then 1 else 0) =
    (if c < n then 1 else 0) + if n = c then 1 else 0 := by
  split_ifs <;> omega

theorem late_begin (opened : f.closed = false) : (f.begin e).late = f.late :=
  if_neg (by rw [opened]; decide)

end Total

theorem conserved_iff : Conserved f held ↔ ∀ a, f.deleted.count a + f.alarm.toList.count a +
    ((held.map (·.address)).count a + (f.pending.map (·.address)).count a) =
      (List.range f.allocated).count a := by
  simp only [Conserved, List.perm_iff_count, List.count_append, List.map_append]

namespace Conserved

theorem begin (conserved : Conserved f (d :: held)) (same : e.address = d.address) :
    Conserved (f.begin e) held := by
  rw [conserved_iff] at conserved ⊢
  intro a
  have before := conserved a
  simp only [Frontend.begin, List.map_append, List.count_append, List.map_cons, List.count_cons,
    List.map_nil, List.count_nil, same] at before ⊢
  omega

theorem allocate (conserved : Conserved f held) (tag : Tag) :
    Conserved { f with allocated := f.allocated + 1 } (⟨f.allocated, tag⟩ :: held) := by
  rw [conserved_iff] at conserved ⊢
  intro a
  have before := conserved a
  simp only [List.range_succ, List.count_append, List.map_cons, List.count_cons, List.count_nil]
    at before ⊢
  omega

theorem beginNew (conserved : Conserved f held) (tag : Tag) : Conserved (f.beginNew tag) held :=
  begin (conserved.allocate tag) rfl

theorem delete (conserved : Conserved f (d :: held)) : Conserved (f.delete d) held := by
  rw [conserved_iff] at conserved ⊢
  intro a
  have before := conserved a
  simp only [Frontend.delete, List.count_append, List.map_cons, List.count_cons, List.count_nil]
    at before ⊢
  omega

theorem take {ok : Bool} (conserved : Conserved f []) (mem : d ∈ f.pending) :
    Conserved (f.take d ok) [d] :=
  .trans (.append_left _ ((List.perm_cons_erase mem).map _).symm) conserved

end Conserved

namespace Inv

theorem unset (inv : Inv l f held) (waking : f.waking = true) : f.alarm = none := by
  have woken := inv.woken
  rw [waking, Bool.toNat_true] at woken
  cases alarm : f.alarm with
  | none => rfl
  | some a =>
    rw [alarm, Option.toList_some, List.length_singleton] at woken
    split at woken <;> omega

theorem opened (inv : Inv l f held) (online : f.shutdownState ≠ .shuttingDown)
    (loose : ∀ d ok, f.serving ≠ .stopped d ok) : f.closed = false := by
  rw [Bool.eq_false_iff, Ne, inv.closed]
  rintro (down | ⟨d, ok, stopped⟩)
  · exact online down
  · exact loose d ok stopped

theorem keep {held' : List CallData} (inv : Inv l f held) (frame : Frame f g)
    (conserved : Conserved g held') (mem : ∀ d ∈ held' ++ g.pending, d ∈ held ++ f.pending)
    (total : ∀ t, g.total held' t = f.total held t) (late : g.late = f.late)
    (flags : ∀ c, (f.interfaces c).forceDisconnected = true →
      (g.interfaces c).forceDisconnected = true) : Inv l g held' := by
  obtain ⟨server, contexts, state, waking, alarm, closed, deleted, serving, call⟩ := frame
  constructor
  · exact conserved
  · rw [call]
    exact fun d here => inv.accepting d (mem d here)
  · simp only [total, contexts]
    exact inv.accepted
  · rw [total, alarm, waking, state]
    exact inv.woken
  · intro c
    rw [total]
    refine (inv.finishing c).trans ?_
    split
    · rename_i flag
      rw [if_pos (flags c flag)]
    · exact Nat.zero_le _
  · intro c
    rw [total, server]
    exact inv.registered c
  · rw [server]
    exact inv.consistent
  · rw [closed, state, serving]
    exact inv.closed
  · rw [serving, state]
    exact inv.asked
  · rw [late]
    exact inv.late
  · rw [serving, closed]
    exact fun idle => ⟨(inv.idle idle).1, fun d here => (inv.idle idle).2 d (mem d here)⟩

theorem goOn {serving : Serving} (inv : Inv l f held)
    (stopping : ∀ d ok, serving = .stopping d ok → f.shutdownState = .shouldShutdown)
    (loose : ∀ d ok, f.serving ≠ .stopped d ok) (loose' : ∀ d ok, serving ≠ .stopped d ok)
    (started : serving ≠ .notStarted) : Inv l { f with serving := serving } held := by
  refine { inv with closed := ?_, asked := ?_, idle := fun idle => absurd idle started }
  · refine inv.closed.trans (or_congr_right (iff_of_false ?_ ?_))
    · exact fun ⟨d, ok, stopped⟩ => loose d ok stopped
    · exact fun ⟨d, ok, stopped⟩ => loose' d ok stopped
  · rintro d ok (here | here)
    · exact stopping d ok here
    · exact absurd here (loose' d ok)

theorem take {ok : Bool} (inv : Inv l f []) (looping : f.serving = .looping)
    (mem : d ∈ f.pending) : Inv l (f.take d ok) [d] := by
  have moved : Inv l { f with serving := .taken d ok } [] :=
    inv.goOn (by rintro _ _ ⟨⟩) (by rw [looping]; rintro _ _ ⟨⟩) (by rintro _ _ ⟨⟩) (by rintro ⟨⟩)
  exact moved.keep (by constructor <;> rfl) (inv.conserved.take mem)
    (fun _ => ((List.perm_cons_erase mem).mem_iff).mpr) (fun _ => total_take mem) rfl fun _ => id

theorem begin (inv : Inv l f (d :: held)) (opened : f.closed = false) : Inv l (f.begin d) held :=
  inv.keep (frame_begin d) (inv.conserved.begin rfl)
    (fun _ mem => (mem_begin.mp mem).elim (List.mem_cons_of_mem d) fun same =>
      same ▸ List.mem_cons_self)
    (fun _ => total_begin.trans total_cons.symm) (late_begin opened) fun _ => id

theorem beginNew (inv : Inv l f held) (opened : f.closed = false)
    (connect : ∀ c, tag ≠ .connect c) (read : ∀ c, tag ≠ .readMessage c) (wakeUp : tag ≠ .wakeUp)
    (disconnect : ∀ c, tag = .disconnect c → f.total held tag = 0 ∧
      (f.interfaces c).forceDisconnected = true) : Inv l (f.beginNew tag) held := by
  have old (e : CallData) (mem : e ∈ held ++ (f.beginNew tag).pending) (c : ConnectionId)
      (here : e.tag = .connect c) : e ∈ held ++ f.pending := by
    refine (mem_begin.mp mem).resolve_right ?_
    rintro rfl
    exact connect c here
  constructor
  · exact inv.conserved.beginNew tag
  · exact fun d mem c here => inv.accepting d (old d mem c here) c here
  · intro c
    rw [total_beginNew, total_beginNew, if_neg (connect c), if_neg (read c)]
    exact inv.accepted c
  · rw [total_beginNew, if_neg wakeUp]
    exact inv.woken
  · intro c
    rw [total_beginNew]
    split
    · rename_i here
      obtain ⟨none, flag⟩ := disconnect c here
      subst here
      rw [none]
      exact (if_pos flag).ge
    · exact inv.finishing c
  · intro c here
    rw [total_beginNew]
    exact Nat.lt_of_lt_of_le (inv.registered c here) (Nat.le_add_right _ _)
  · exact inv.consistent
  · exact inv.closed
  · exact inv.asked
  · exact (late_begin opened).trans inv.late
  · exact fun idle => ⟨opened, fun d mem c here =>
      (inv.idle idle).2 d (old d mem c here) c here⟩

theorem delete (inv : Inv l f [d])
    (unread : ∀ c, d.tag = .readMessage c → (f.server.connections c).iterator = none) :
    Inv l (f.delete d) [] := by
  have less (t : Tag) : f.total [] t ≤ f.total [d] t := by
    rw [total_cons]
    exact Nat.le_add_right _ _
  have mem (x : CallData) (here : x ∈ f.pending) : x ∈ [d] ++ f.pending :=
    List.mem_cons_of_mem d here
  constructor
  · exact inv.conserved.delete
  · exact fun x here => inv.accepting x (mem x here)
  · exact fun c => (Nat.add_le_add (less _) (less _)).trans (inv.accepted c)
  · exact (Nat.add_le_add_right (Nat.add_le_add_right (less _) _) _).trans inv.woken
  · exact fun c => (less _).trans (inv.finishing c)
  · intro c here
    have before := inv.registered c here
    rw [total_cons, if_neg] at before
    · exact before
    · intro same
      rw [show (f.delete d).server = f.server from rfl, unread c same] at here
      cases here
  · exact inv.consistent
  · exact inv.closed
  · exact inv.asked
  · exact inv.late
  · exact fun idle => ⟨(inv.idle idle).1, fun x here => (inv.idle idle).2 x (mem x here)⟩

theorem setServer (inv : Inv l f held) {s : Server} (consistent : Consistent s)
    (registered : ∀ c, (s.connections c).iterator.isSome = true →
      0 < f.total held (.readMessage c)) : Inv l { f with server := s } held :=
  { inv with consistent := consistent, registered := registered }

theorem perform (inv : Inv l f held) {r : ConnectionInterface × List StreamCall}
    (flag : (f.interfaces client).forceDisconnected = true → r.1.forceDisconnected = true) :
    Inv l (f.perform client r) held := by
  refine inv.keep (frame_perform r) inv.conserved (fun _ => id) (fun _ => rfl) rfl fun c here => ?_
  by_cases same : c = client
  · subst same
    rw [interfaces_perform_self]
    exact flag here
  · rw [interfaces_perform_ne r same]
    exact here

theorem sendEventToClient (inv : Inv l f held) (opened : f.closed = false) (s : Send) :
    Inv l (f.sendEventToClient s) held := by
  have asked : Inv l (f.perform s.peer
      ((f.interfaces s.peer).sendEventToClient s.event s.senderInstanceId)) held := by
    refine inv.perform fun here => ?_
    unfold ConnectionInterface.sendEventToClient ConnectionInterface.sendEvent
    split <;> exact here
  cases writing : (f.interfaces s.peer).writePending with
  | true =>
    rw [sendEventToClient_pending writing]
    exact asked
  | false =>
    rw [sendEventToClient_free writing]
    exact asked.beginNew opened (by rintro _ ⟨⟩) (by rintro _ ⟨⟩) (by rintro ⟨⟩) (by rintro _ ⟨⟩)

theorem sends (inv : Inv l f held) (opened : f.closed = false) (sends : List Send) :
    Inv l (sends.foldl Frontend.sendEventToClient f) held := by
  induction sends generalizing f with
  | nil => exact inv
  | cons s sends ih =>
    exact ih (inv.sendEventToClient opened s) ((frame_sendEventToClient s).closed.trans opened)

theorem interfaceForceDisconnect (inv : Inv l f held) (looping : f.serving = .looping)
    (errorMessage : String) (client : ConnectionId) :
    Inv l (f.interfaceForceDisconnect errorMessage client) held := by
  -- The stream is finished once, and not after the queue has been shut down.
  have flagged : ((f.interfaces client).forceDisconnect f.isShuttingDown
      errorMessage).1.forceDisconnected = true := by
    unfold ConnectionInterface.forceDisconnect
    split
    · assumption
    · split <;> rfl
  have asked : Inv l (f.perform client ((f.interfaces client).forceDisconnect f.isShuttingDown
      errorMessage)) held := inv.perform fun _ => flagged
  unfold Frontend.interfaceForceDisconnect
  dsimp only
  split
  · exact asked
  rename_i open'
  split
  · exact asked
  rename_i online
  have opened : f.closed = false :=
    inv.opened (fun down => online (decide_eq_true down)) (by rw [looping]; rintro _ _ ⟨⟩)
  refine asked.beginNew opened (by rintro _ ⟨⟩) (by rintro _ ⟨⟩) (by rintro ⟨⟩) ?_
  rintro c ⟨⟩
  have none := inv.finishing client
  rw [if_neg open'] at none
  refine ⟨Nat.le_zero.mp none, ?_⟩
  rw [interfaces_perform_self]
  exact flagged

theorem forceDisconnect (inv : Inv l f held) (looping : f.serving = .looping)
    (errorMessage : String) (client : ConnectionId) :
    Inv l (f.forceDisconnect errorMessage client) held := by
  refine Inv.interfaceForceDisconnect (inv.setServer (inv.consistent.forceDisconnect client)
    fun c registered => inv.registered c ?_) looping errorMessage client
  rw [Server.connections_forceDisconnect] at registered
  split at registered
  · cases registered
  · exact registered

theorem supersede (inv : Inv l f held) (looping : f.serving = .looping) (m : Message) :
    Inv l (f.supersede m) held := by
  unfold Frontend.supersede
  split
  · split
    · exact inv.interfaceForceDisconnect looping _ _
    · exact inv
  · exact inv

theorem handles {data : List UInt8} {sends : List Send} (inv : Inv l f (d :: held))
    (looping : f.serving = .looping) (opened : f.closed = false) (tag : d.tag = .readMessage client)
    (handles : Handles f client data sends g) : Inv l g (d :: held) := by
  cases handles with
  | ignored => exact inv
  | rejected errorMessage => exact inv.forceDisconnect looping errorMessage client
  | @accepted now now' m s sends parsed accepts =>
    have consistent := inv.consistent.accepts accepts
    have reading : 0 < (f.supersede m).total (d :: held) (.readMessage client) := by
      rw [total_cons, if_pos tag]
      exact Nat.succ_pos _
    have server := (frame_supersede (f := f) m).server
    have registered (c : ConnectionId) (here : (s.connections c).iterator.isSome = true) :
        0 < (f.supersede m).total (d :: held) (.readMessage c) := by
      cases accepts.iterator here with
      | inl before =>
        rw [← server] at before
        exact (inv.supersede looping m).registered c before
      | inr own =>
        subst own
        exact reading
    have sent := ((inv.supersede looping m).setServer consistent registered).sends
      ((frame_supersede m).closed.trans opened) sends
    have kept := (frame_sends (f := { f.supersede m with server := s }) sends).server
    refine sent.setServer (consistent.stamp now' client) fun c here => sent.registered c ?_
    rw [kept]
    rw [Server.connections_stamp] at here
    split at here
    · rename_i own
      rw [own]
      exact here
    · exact here

theorem check {ok : Bool} (inv : Inv l f held) (taken : f.serving = .taken d ok) :
    Inv l (f.check d ok) held := by
  refine inv.goOn ?_ (by rw [taken]; rintro _ _ ⟨⟩) ?_ ?_
  · intro e ok' stopping
    split at stopping
    · assumption
    · cases stopping
  · intro e ok'
    split <;> rintro ⟨⟩
  · split <;> rintro ⟨⟩

theorem closeQueue {ok : Bool} (inv : Inv l f held) (stopping : f.serving = .stopping d ok) :
    Inv l (f.closeQueue d ok) held := by
  refine { inv with closed := ?_, asked := ?_, idle := ?_ }
  · exact iff_of_true rfl (.inr ⟨d, ok, rfl⟩)
  · exact fun _ => inv.asked (.inl stopping)
  · rintro ⟨⟩

theorem setShuttingDown {ok : Bool} (inv : Inv l f held) (stopped : f.serving = .stopped d ok) :
    Inv l (f.setShuttingDown d ok) held := by
  have asked := inv.asked (.inr stopped)
  have down : (f.setShuttingDown d ok).shutdownState = .shuttingDown := if_pos asked
  refine { inv with woken := ?_, closed := ?_, asked := ?_, idle := ?_ }
  · have woken := inv.woken
    rw [asked] at woken
    rw [down]
    exact woken
  · exact iff_of_true (inv.closed.mpr (.inr ⟨d, ok, stopped⟩)) (.inl down)
  · rintro _ _ (⟨⟨⟩⟩ | ⟨⟨⟩⟩)
  · rintro ⟨⟩

theorem resume {ok : Bool} (inv : Inv l f held) (handling : f.serving = .handling d ok) :
    Inv l f.resume held :=
  inv.goOn (by rintro _ _ ⟨⟩) (by rw [handling]; rintro _ _ ⟨⟩) (by rintro _ _ ⟨⟩) (by rintro ⟨⟩)

theorem discard (inv : Inv l f [d]) (looping : f.serving = .looping) :
    Inv l (f.discard d) [] := by
  unfold Frontend.discard
  split
  · rename_i client tag
    refine (inv.forceDisconnect looping "shutdown by client" client).delete fun c same => ?_
    cases tag.symm.trans same
    have kept : Frame { f with server := f.server.forceDisconnect client }
        (f.forceDisconnect "shutdown by client" client) := frame_interfaceForceDisconnect _
    rw [kept.server, Server.connections_forceDisconnect, if_pos rfl]
  · rename_i other
    exact inv.delete fun c same => (other c same).elim

theorem handleWriteEvent (inv : Inv l f [d]) (opened : f.closed = false)
    (tag : d.tag = .writeEvent client) : Inv l (f.handleWriteEvent d client) [] := by
  have asked : Inv l (f.perform client (f.interfaces client).handleWriteEvent) [d] := by
    refine inv.perform fun here => ?_
    unfold ConnectionInterface.handleWriteEvent
    split <;> exact here
  cases queue : (f.interfaces client).queuedEvents with
  | nil =>
    rw [handleWriteEvent_nil queue]
    exact asked.delete fun c same => by cases tag.symm.trans same
  | cons e rest =>
    rw [handleWriteEvent_cons queue]
    exact asked.begin opened

theorem connect (inv : Inv l f [d]) (opened : f.closed = false) (tag : d.tag = .connect client) :
    Inv l ((f.beginNew (.readMessage client)).requestConnect f.connectCallData) [] := by
  -- The object that waits for connections is used for the next one.
  have address := inv.accepting d List.mem_cons_self client tag
  let e : CallData := ⟨f.connectCallData, .connect f.contexts⟩
  let g : Frontend := { f.beginNew (.readMessage client) with contexts := f.contexts + 1 }
  have count (t : Tag) : g.total [e] t + (if Tag.connect client = t then 1 else 0) =
      f.total [d] t + (if Tag.readMessage client = t then 1 else 0) +
        if Tag.connect f.contexts = t then 1 else 0 := by
    have old : (f.beginNew (.readMessage client)).total [d] t =
        f.total [d] t + if Tag.readMessage client = t then 1 else 0 := total_beginNew
    rw [total_cons, tag] at old
    rw [total_cons, ← old]
    exact Nat.add_right_comm _ _ _
  have made : Inv l g [e] := by
    constructor
    · have before := inv.conserved.beginNew (.readMessage client)
      unfold Conserved at before ⊢
      rwa [List.cons_append, List.map_cons, address] at before
    · rintro x mem c here
      cases mem with
      | head => rfl
      | tail _ mem =>
        refine inv.accepting x (List.mem_cons_of_mem d ?_) c here
        have mem : x ∈ f.pending ++ [_] := mem
        refine (List.mem_append.mp mem).resolve_right fun new => ?_
        cases List.mem_singleton.mp new
        cases here
    · intro c
      have before := inv.accepted c
      have connected := count (.connect c)
      have read := count (.readMessage c)
      simp only [Tag.connect.injEq, Tag.readMessage.injEq, reduceCtorEq, if_false] at connected read
      have contexts : g.contexts = f.contexts + 1 := rfl
      rw [contexts, below_succ]
      omega
    · have same := count .wakeUp
      simp only [reduceCtorEq, if_false] at same
      exact (congrArg (· + f.alarm.toList.length + f.waking.toNat) same).trans_le inv.woken
    · intro c
      have same := count (.disconnect c)
      simp only [reduceCtorEq, if_false] at same
      exact same.trans_le (inv.finishing c)
    · intro c here
      have same := count (.readMessage c)
      simp only [reduceCtorEq, if_false] at same
      exact (inv.registered c here).trans_le ((Nat.le_add_right _ _).trans same.ge)
    · exact inv.consistent
    · exact inv.closed
    · exact inv.asked
    · exact (late_begin opened).trans inv.late
    · exact fun idle => ((inv.idle idle).2 d List.mem_cons_self client tag).elim
  exact made.begin opened

theorem start (inv : Inv l f []) (notStarted : f.serving = .notStarted) : Inv l f.start [] := by
  obtain ⟨opened, none⟩ := inv.idle notStarted
  let e : CallData := ⟨f.allocated, .connect f.contexts⟩
  let g : Frontend :=
    { f with
      allocated := f.allocated + 1
      serving := .looping
      connectCallData := f.allocated
      contexts := f.contexts + 1 }
  have count (t : Tag) : g.total [e] t =
      f.total [] t + if Tag.connect f.contexts = t then 1 else 0 := total_cons
  have made : Inv l g [e] := by
    constructor
    · exact inv.conserved.allocate _
    · rintro x mem c here
      cases mem with
      | head => rfl
      | tail _ mem => exact (none x mem c here).elim
    · intro c
      have before := inv.accepted c
      have contexts : g.contexts = f.contexts + 1 := rfl
      rw [count, count, contexts, below_succ]
      simp only [Tag.connect.injEq, reduceCtorEq, if_false]
      omega
    · exact (congrArg (· + f.alarm.toList.length + f.waking.toNat) (count .wakeUp)).trans_le
        inv.woken
    · exact fun c => (count (.disconnect c)).trans_le (inv.finishing c)
    · exact fun c here => (inv.registered c here).trans_eq (count (.readMessage c)).symm
    · exact inv.consistent
    · refine inv.closed.trans (or_congr_right (iff_of_false ?_ (by rintro ⟨_, _, ⟨⟩⟩)))
      rw [notStarted]
      rintro ⟨_, _, ⟨⟩⟩
    · rintro _ _ (⟨⟨⟩⟩ | ⟨⟨⟩⟩)
    · exact inv.late
    · rintro ⟨⟩
  exact made.begin opened

theorem process (inv : Inv l f [d]) (looping : f.serving = .looping) (opened : f.closed = false)
    (now now' : Int64) (data : List UInt8) : Inv l (f.process d now now' data) [] := by
  unfold Frontend.process
  split
  · rename_i client tag
    exact inv.connect opened tag
  · rename_i client tag
    have handles := handleReadMessage_handles f now now' data client
    exact (inv.handles looping opened tag handles).begin (handles.frame.closed.trans opened)
  · rename_i client tag
    exact inv.handleWriteEvent opened tag
  · rename_i client tag
    exact inv.delete fun c same => by cases tag.symm.trans same
  · rename_i tag
    exact inv.delete fun c same => by cases tag.symm.trans same

theorem step {op : Op} (inv : Inv f.late f f.serving.held) (step : Step f op g) :
    Inv g.late g g.serving.held := by
  cases step with
  | start idle =>
    rw [idle] at inv
    have begun := inv.start idle
    exact { begun with late := rfl }
  | next looping completed =>
    rw [looping] at inv
    exact inv.take looping completed
  | @check d ok taken =>
    rw [taken] at inv
    have held : (f.check d ok).serving.held = [d] := by
      unfold Frontend.check
      dsimp only
      split <;> rfl
    rw [held]
    exact inv.check taken
  | closeQueue stopping =>
    rw [stopping] at inv
    exact inv.closeQueue stopping
  | setShuttingDown stopped =>
    rw [stopped] at inv
    exact inv.setShuttingDown stopped
  | @discard d ok handling late =>
    rw [handling] at inv
    have serving : (f.resume.discard d).serving = .looping := (Kept.discard d).serving
    rw [serving]
    have done := (inv.resume handling).discard rfl
    exact { done with late := rfl }
  | @process d now now' data handling online =>
    rw [handling] at inv
    have serving : (f.resume.process d now now' data).serving = .looping := (Kept.process d).serving
    rw [serving]
    have resumed := inv.resume handling
    have done := resumed.process rfl (resumed.opened online (by rintro _ _ ⟨⟩)) now now' data
    exact { done with late := rfl }
  | drained looping closed empty =>
    rw [looping] at inv
    exact inv.goOn (by rintro _ _ ⟨⟩) (by rw [looping]; rintro _ _ ⟨⟩) (by rintro _ _ ⟨⟩)
      (by rintro ⟨⟩)
  | shutdown online =>
    have woken := inv.woken
    rw [if_pos online] at woken
    refine { inv with woken := ?_, closed := ?_, asked := fun _ => rfl }
    · rw [if_neg (by rintro ⟨⟩)]
      exact Nat.add_le_add_right ((Nat.le_add_right _ _).trans woken) 1
    · rw [inv.closed, online]
      exact or_congr_left (iff_of_false (by rintro ⟨⟩) (by rintro ⟨⟩))
  | shutdownAgain => exact inv
  | newWakeUp waking =>
    have woken := inv.woken
    have unset := inv.unset waking
    refine { inv with conserved := ?_, woken := ?_ }
    · have allocated := conserved_iff.mp (inv.conserved.allocate .wakeUp)
      rw [conserved_iff]
      intro a
      have before := allocated a
      simp only [unset, List.map_cons, List.count_cons, Option.toList_none, Option.toList_some,
        List.count_nil] at before ⊢
      omega
    · rw [unset, waking] at woken
      exact woken
  | @setAlarm address made =>
    let e : CallData := ⟨address, .wakeUp⟩
    have count (t : Tag) : (f.begin e).total f.serving.held t =
        f.total f.serving.held t + if Tag.wakeUp = t then 1 else 0 := total_begin
    have old (x : CallData) (mem : x ∈ f.serving.held ++ (f.pending ++ [e])) (c : ConnectionId)
        (here : x.tag = .connect c) : x ∈ f.serving.held ++ f.pending := by
      rw [← List.append_assoc] at mem
      refine (List.mem_append.mp mem).resolve_right fun new => ?_
      cases List.mem_singleton.mp new
      cases here
    constructor
    · have before := conserved_iff.mp inv.conserved
      rw [conserved_iff]
      intro a
      have before := before a
      simp only [made, Frontend.begin, List.map_append, List.count_append, Option.toList_none,
        Option.toList_some, List.map_cons, List.map_nil, List.count_nil] at before ⊢
      omega
    · exact fun x mem c here => inv.accepting x (old x mem c here) c here
    · exact fun c => (congrArg₂ (· + ·) (count (.connect c)) (count (.readMessage c))).trans_le
        (inv.accepted c)
    · have woken := inv.woken
      rw [made] at woken
      exact (congrArg (· + f.waking.toNat) (count .wakeUp)).trans_le woken
    · exact fun c => (count (.disconnect c)).trans_le (inv.finishing c)
    · exact fun c here => (inv.registered c here).trans_eq (count (.readMessage c)).symm
    · exact inv.consistent
    · exact inv.closed
    · exact inv.asked
    · rfl
    · exact fun idle => ⟨(inv.idle idle).1, fun x mem c here =>
        (inv.idle idle).2 x (old x mem c here) c here⟩

theorem fresh (threshold : UInt64) : Inv [] (initial threshold) [] := by
  constructor
  · exact .refl _
  · rintro d ⟨⟩
  · exact fun c => Nat.zero_le _
  · exact Nat.zero_le _
  · exact fun c => Nat.zero_le _
  · rintro c ⟨⟩
  · exact .fresh threshold
  · exact iff_of_false (by rintro ⟨⟩) (by rintro (⟨⟨⟩⟩ | ⟨_, _, ⟨⟩⟩))
  · rintro _ _ (⟨⟨⟩⟩ | ⟨⟨⟩⟩)
  · rfl
  · refine fun _ => ⟨rfl, ?_⟩
    rintro d ⟨⟩

end Inv

variable {threshold : UInt64} {ops : List Op}

theorem run_inv (run : Run Step (initial threshold) ops f) : Inv f.late f f.serving.held :=
  run.invariant (P := fun f => Inv f.late f f.serving.held) (fun _ => True)
    (fun inv _ step => inv.step step) (.fresh threshold) (fun _ _ => trivial)

/-- What `grpc` asks of whoever uses a queue: one operation of each kind for each
stream, and an object of its own for each operation, that is still there when
the operation completes. -/
theorem one_in_flight (run : Run Step (initial threshold) ops f) (client : ConnectionId) :
    let tags := f.pending.map (·.tag)
    tags.count (.connect client) + tags.count (.readMessage client) ≤ 1 ∧
      tags.count (.writeEvent client) ≤ 1 ∧ tags.count (.disconnect client) ≤ 1 ∧
      (f.issued client).countP StreamCall.isFinish ≤ 1 ∧ tags.count .wakeUp ≤ 1 ∧
      (f.pending.map (·.address)).Nodup ∧ ∀ d ∈ f.pending, d.address ∉ f.deleted := by
  have inv := run_inv run
  obtain ⟨ops', stream⟩ := run_view run client
  have discipline := Stream.run_inv stream
  obtain ⟨before, apart, disjoint⟩ :=
    List.nodup_append.mp (inv.conserved.nodup_iff.mpr List.nodup_range)
  have fewer (t : Tag) : (f.pending.map (·.tag)).count t ≤ f.total f.serving.held t := by
    rw [total, List.map_append, List.count_append]
    exact Nat.le_add_left _ _
  have woken : f.total f.serving.held .wakeUp ≤ 1 :=
    (Nat.le_add_right _ _).trans ((Nat.le_add_right _ _).trans
      (inv.woken.trans (by split <;> decide)))
  rw [List.map_append] at apart
  refine ⟨(Nat.add_le_add (fewer _) (fewer _)).trans
      ((inv.accepted client).trans (by split <;> decide)),
    (fewer _).trans discipline.single,
    (fewer _).trans ((inv.finishing client).trans (by split <;> decide)), discipline.once,
    (fewer _).trans woken, apart.of_append_right, ?_⟩
  intro d mem deleted
  exact disjoint _ (List.mem_append_left _ deleted) _
    (List.mem_map_of_mem (List.mem_append_right _ mem)) rfl

theorem one_in_flight_connected : ∃ f, Run Step (initial 30000)
      ([.start] ++ round ⟨0, .connect 0⟩ 0 0 [] ++ round ⟨1, .readMessage 0⟩ 0 0 []) f ∧
    let tags := f.pending.map (·.tag)
    tags = [.connect 1, .disconnect 0, .readMessage 0] ∧
      tags.count (.connect 0) + tags.count (.readMessage 0) ≤ 1 ∧
        tags.count (.writeEvent 0) ≤ 1 ∧ tags.count (.disconnect 0) ≤ 1 ∧
        (f.issued 0).countP StreamCall.isFinish ≤ 1 ∧ tags.count .wakeUp ≤ 1 ∧
        (f.pending.map (·.address)).Nodup ∧ ∀ d ∈ f.pending, d.address ∉ f.deleted := by
  obtain ⟨f, run, tags⟩ : ∃ f, Run Step (initial 30000)
      ([.start] ++ round ⟨0, .connect 0⟩ 0 0 [] ++ round ⟨1, .readMessage 0⟩ 0 0 []) f ∧
        f.pending.map (·.tag) = [.connect 1, .disconnect 0, .readMessage 0] :=
    ⟨_, run_round _ 0 0 _ (run_round _ 0 0 _ (.snoc .nil (.start rfl)) rfl (.head _) rfl) rfl
      (.head _) rfl, rfl⟩
  exact ⟨f, run, tags, one_in_flight run 0⟩

end ArcdpsHealing.Networking.Frontend
