import ArcdpsHealing.Lib.Run
import ArcdpsHealing.Processor.EvtcLog
import ArcdpsHealing.Processor.Shown

/-! What a peer knows of a player while events are under way. -/

namespace ArcdpsHealing.Processor

open Arcdps Networking Lib PlayerStats

/-- An event that has been sent: the callback and the sender as it found it. -/
structure Sent where
  sender : EventProcessor
  callback : Callback

def Sent.event (c : Enums) (x : Sent) : CbtEvent := forwarded c x.sender x.callback

def Sent.after (c : Enums) (x : Sent) : EventProcessor :=
  (x.sender.localCombat c x.callback.env x.callback.event x.callback.source
    x.callback.destination).processor

def Sent.log (c : Enums) (x : Sent) : Option CbtEvent :=
  localLog c true x.sender x.callback.event

/-- A player and one of the peers, with what each has written to its log of the
player's events. -/
structure Link where
  sender : EventProcessor
  receiver : EventProcessor
  inFlight : List Sent := []
  ownLog : List CbtEvent := []
  peerLog : List CbtEvent := []

namespace Link

inductive Op
  | callback (x : Callback) (logging : Bool)
  | deliver (logging : Bool)
  | sender (s : EventProcessor)
  | receiver (r : EventProcessor)

def Op.Logs : Op → Prop
  | .callback _ logging => logging = true
  | .deliver logging => logging = true
  | .sender _ => True
  | .receiver _ => True

variable (c : Enums) (budgetMode : Bool) (i : UInt16) (u : UInt64) (l : Link)

def call (x : Callback) (logging : Bool) : Link :=
  { l with
    sender := (l.sender.localCombat c x.env x.event x.source x.destination).processor
    inFlight := l.inFlight ++
      if sendsEvent c budgetMode (forwarded c l.sender x) then [⟨l.sender, x⟩] else []
    ownLog := l.ownLog ++ (localLog c logging l.sender x.event).toList }

def receive (e : CbtEvent) (rest : List Sent) (logging : Bool) : Link :=
  { l with
    receiver := l.receiver.peerCombat c e i
    inFlight := rest
    peerLog := l.peerLog ++ (Processor.peerLog c logging l.receiver e i).toList }

/-- Events arrive in order, at any time. On either side all sorts of other things
happen, which leave the two registrations alone. -/
inductive Step (l : Link) : Op → Link → Prop
  | callback {x logging} : Step l (.callback x logging) (l.call c budgetMode x logging)
  | deliver {x rest logging} (next : l.inFlight = x :: rest) :
      Step l (.deliver logging) (l.receive c i (x.event c) rest logging)
  | sender {s} (selfInstanceId : s.selfInstanceId = l.sender.selfInstanceId) :
      Step l (.sender s) { l with sender := s }
  | receiver {r} (player : r.agentTable.getUniqueId i false = some u) :
      Step l (.receiver r) { l with receiver := r }

/-- The two sides know the agents that an event is about, and the other things
that happen are no part of the player's combat. -/
def Knows (l : Link) : Op → Prop
  | .callback x _ => Owned i x
  | .deliver _ => ∀ x ∈ l.inFlight.head?,
    l.receiver.agentTable.getUniqueId x.callback.event.dstInstid true =
      some x.callback.destination.id
  | .sender s => ∃ x, Idle l.sender x ∧ s = l.sender.handle c x
  | .receiver r => ∃ x, Foreign l.receiver u x ∧ r = l.receiver.handle c x

def Registered (l : Link) : Prop :=
  l.sender.selfInstanceId = i.toUInt32 ∧ l.receiver.agentTable.getUniqueId i false = some u

/-- The sender when the oldest event that is under way came up. -/
def past : EventProcessor :=
  match l.inFlight with
  | [] => l.sender
  | x :: _ => x.sender

variable {c budgetMode i u} {l m : Link} {op : Op} {ops : List Op}

theorem Registered.step (reg : Registered i u l) (step : Step c budgetMode i u l op m) :
    Registered i u m := by
  obtain ⟨self, player⟩ := reg
  cases step with
  | callback => exact ⟨(EventProcessor.selfInstanceId_localCombat c _ _ _ _ _).trans self, player⟩
  | deliver =>
    refine ⟨self, ?_⟩
    change (EventProcessor.peerCombat c _ _ _).agentTable.getUniqueId i false = some u
    rw [EventProcessor.agentTable_peerCombat]
    exact player
  | sender selfInstanceId => exact ⟨selfInstanceId.trans self, player⟩
  | receiver player' => exact ⟨self, player'⟩

section Logs

def anonymous (e : CbtEvent) : CbtEvent := { e with srcAgent := 0, dstAgent := 0 }

theorem filterMap_cons_toList {α β : Type} (f : α → Option β) (x : α) (xs : List α) :
    (x :: xs).filterMap f = (f x).toList ++ xs.filterMap f := by
  rw [List.filterMap_cons]
  cases f x <;> rfl

structure Logged (c : Enums) (budgetMode : Bool) (i : UInt16) (u : UInt64) (l : Link) : Prop where
  registered : Registered i u l
  sent : ∀ x ∈ l.inFlight,
    x.sender.selfInstanceId = i.toUInt32 ∧ sendsEvent c budgetMode (x.event c)
  same : l.peerLog.map anonymous ++ (l.inFlight.filterMap (Sent.log c)).map anonymous =
    l.ownLog.map anonymous

theorem Logged.call (logged : Logged c budgetMode i u l) (x : Callback) :
    Logged c budgetMode i u (l.call c budgetMode x true) := by
  obtain ⟨registered, sent, same⟩ := logged
  refine ⟨registered.step .callback, ?_, ?_⟩
  · change ∀ y ∈ l.inFlight ++ _, _
    split
    · rename_i sends
      simp only [List.mem_append, List.mem_singleton]
      rintro y (mem | rfl)
      · exact sent y mem
      · exact ⟨registered.1, sends⟩
    · rw [List.append_nil]
      exact sent
  · change _ ++ ((l.inFlight ++ _).filterMap (Sent.log c)).map anonymous =
      (l.ownLog ++ (localLog c true l.sender x.event).toList).map anonymous
    rw [List.map_append, List.filterMap_append, List.map_append, ← same, List.append_assoc]
    congr 2
    split
    · rw [filterMap_cons_toList, List.filterMap_nil, List.append_nil]
      rfl
    · rename_i spared
      have quiet : ¬ EventProcessor.Heals c x.event := fun heals =>
        spared fun _ => .inl (heals_forwarded.mpr heals).type
      rw [localLog_of_not_heals quiet]
      rfl

theorem Logged.receive (logged : Logged c budgetMode i u l) {x : Sent} {rest : List Sent}
    (next : l.inFlight = x :: rest) :
    Logged c budgetMode i u (l.receive c i (x.event c) rest true) := by
  obtain ⟨registered, sent, same⟩ := logged
  rw [next] at sent same
  obtain ⟨self, sends⟩ := sent x (.head _)
  have told : (if sendsEvent c budgetMode (x.event c) then
      Processor.peerLog c true l.receiver (x.event c) i else none) =
      (x.log c).map (fixAgents l.receiver.agentTable) := peerLog_forwarded self registered.2
  rw [if_pos sends] at told
  have step : Step c budgetMode i u l (.deliver true) (l.receive c i (x.event c) rest true) :=
    .deliver next
  refine ⟨registered.step step, fun y mem => sent y (.tail _ mem), ?_⟩
  change (l.peerLog ++ (Processor.peerLog c true l.receiver (x.event c) i).toList).map anonymous ++
    (rest.filterMap (Sent.log c)).map anonymous = l.ownLog.map anonymous
  rw [← same, told, filterMap_cons_toList, List.map_append, List.map_append, List.append_assoc]
  congr 2
  cases x.log c <;> rfl

theorem Logged.step (logged : Logged c budgetMode i u l) (logs : op.Logs)
    (step : Step c budgetMode i u l op m) : Logged c budgetMode i u m := by
  have registered := logged.registered.step step
  cases step with
  | callback =>
    cases logs
    exact logged.call _
  | deliver next =>
    cases logs
    exact logged.receive next
  | sender => exact ⟨registered, logged.sent, logged.same⟩
  | receiver => exact ⟨registered, logged.sent, logged.same⟩

/-- Event by event, the log of a peer is what the player has logged, up to what
is still under way. -/
theorem logs_agree (run : Run (Step c budgetMode i u) l ops m) (registered : Registered i u l)
    (inFlight : l.inFlight = []) (ownLog : l.ownLog = []) (peerLog : l.peerLog = [])
    (logs : ∀ op ∈ ops, op.Logs) :
    m.peerLog.map anonymous ++ (m.inFlight.filterMap (Sent.log c)).map anonymous =
      m.ownLog.map anonymous := by
  have start : Logged c budgetMode i u l := by
    refine ⟨registered, ?_, ?_⟩
    · rw [inFlight]
      rintro _ ⟨⟩
    · rw [inFlight, ownLog, peerLog]
      rfl
  exact (run.invariant Op.Logs (fun logged logs step => logged.step logs step) start logs).same

def healed : Callback :=
  ⟨fightEvent 30 1 0 12, ⟨some [65], 77, 1, 0, 1, 1⟩, ⟨some [67], 88, 1, 0, 0, 1⟩, {}⟩

def fightLink : Link := { sender := fightPair.sender, receiver := fightPair.receiver }

theorem logs_agree_fight : ∃ m, Run (Step .documented true 5 77) fightLink
      [.callback healed true, .deliver true, .callback healed true] m ∧
    m.peerLog.map anonymous ++ (m.inFlight.filterMap (Sent.log .documented)).map anonymous =
      m.ownLog.map anonymous := by
  obtain ⟨m, run⟩ : ∃ m, Run (Step .documented true 5 77) fightLink
      [.callback healed true, .deliver true, .callback healed true] m :=
    ⟨_, .snoc (.snoc (.snoc .nil .callback) (.deliver rfl)) .callback⟩
  refine ⟨m, run, logs_agree run ⟨rfl, fightTable_self⟩ rfl rfl rfl ?_⟩
  rintro op (_ | ⟨_, _ | ⟨_, _ | ⟨_, ⟨⟩⟩⟩⟩) <;> rfl

end Logs

section Copy

theorem ownCall_of_not_sends {s : EventProcessor} {x : Callback}
    (spared : ¬ sendsEvent c budgetMode (forwarded c s x)) :
    budgetMode = true ∧ (ownCall c s x = none ∨
      ownCall c s x = some (.damageEvent (preProcessEvent c x.event true).time)) := by
  have sent : forwarded c s x = _ :=
    EventProcessor.forwarded_localCombat c s x.env x.event x.source x.destination
  unfold sendsEvent at spared
  rw [Classical.not_imp, not_or, not_or] at spared
  obtain ⟨on, heals, enter, exit⟩ := spared
  refine ⟨on, ?_⟩
  unfold ownCall
  generalize preProcessEvent c x.event true = e at *
  have plain : forwarded c s x = e := by
    rw [sent]
    refine if_neg fun exits => exit ?_
    rw [sent, if_pos exits, CbtEvent.isStatechange_writeIff]
    exact exits.1
  rw [plain] at heals enter exit
  rw [EventProcessor.localCall, if_neg enter, if_neg exit]
  cases type : getEventType c e true with
  | damage | semiDamaging =>
    dsimp only
    split
    · exact .inr rfl
    · exact .inl rfl
  | other => exact .inl rfl
  | healing => exact absurd type heals

theorem Shows.unsent {s : EventProcessor} {x : Callback} {copy : PlayerStats}
    (spared : ¬ sendsEvent c budgetMode (forwarded c s x))
    (shows : Shows budgetMode s.localState copy) :
    Shows budgetMode (s.localCombat c x.env x.event x.source x.destination).processor.localState
      copy := by
  rw [EventProcessor.localState_localCombat]
  change Shows budgetMode ((ownCall c s x).toList.foldl _ _) copy
  obtain ⟨on, none | damage⟩ := ownCall_of_not_sends spared
  · rw [none]
    exact shows
  · rw [damage]
    exact shows.ownDamageEvent on _

theorem Shows.arrives {x : Sent} {r : EventProcessor}
    (shows : Shows budgetMode x.sender.localState (r.peerState u))
    (self : x.sender.selfInstanceId = i.toUInt32)
    (player : r.agentTable.getUniqueId i false = some u)
    (known : Consistent i r.agentTable x.callback)
    (sends : sendsEvent c budgetMode (x.event c)) :
    Shows budgetMode (x.after c).localState ((r.peerCombat c (x.event c) i).peerState u) := by
  have next := Processor.Shows.relay c (p := ⟨x.sender, r⟩) shows ⟨self, player⟩ known
  have receiver : (relay c budgetMode i ⟨x.sender, r⟩ x.callback).receiver =
      r.peerCombat c (x.event c) i := if_pos sends
  rw [receiver] at next
  exact next

variable (c budgetMode i) in
/-- What is under way leads from a copy that shows the sender as it was to one that
shows it as it is now. -/
def Catches (now : EventProcessor) : List Sent → PlayerStats → Prop
  | [], copy => Shows budgetMode now.localState copy
  | x :: rest, copy =>
    Shows budgetMode x.sender.localState copy ∧ Owned i x.callback ∧
      x.sender.selfInstanceId = i.toUInt32 ∧ sendsEvent c budgetMode (x.event c) ∧
      ∀ copy', Shows budgetMode (x.after c).localState copy' → Catches now rest copy'

variable {now now' : EventProcessor} {xs : List Sent} {copy : PlayerStats}

theorem Catches.moves (catches : Catches c budgetMode i now xs copy)
    (moves : ∀ copy, Shows budgetMode now.localState copy →
      Shows budgetMode now'.localState copy) :
    Catches c budgetMode i now' xs copy := by
  induction xs generalizing copy with
  | nil => exact moves copy catches
  | cons x xs ih =>
    obtain ⟨shows, owned, self, sends, later⟩ := catches
    exact ⟨shows, owned, self, sends, fun copy' after => ih (later copy' after)⟩

theorem Catches.kept {copy' : PlayerStats} (catches : Catches c budgetMode i now xs copy)
    (kept : Kept copy copy') : Catches c budgetMode i now xs copy' := by
  cases xs with
  | nil => exact Processor.Shows.kept catches kept
  | cons x xs => exact ⟨catches.1.kept kept, catches.2⟩

theorem Catches.snoc {x : Callback} (catches : Catches c budgetMode i now xs copy)
    (owned : Owned i x) (self : now.selfInstanceId = i.toUInt32)
    (sends : sendsEvent c budgetMode (forwarded c now x)) :
    Catches c budgetMode i (Sent.after c ⟨now, x⟩) (xs ++ [⟨now, x⟩]) copy := by
  induction xs generalizing copy with
  | nil => exact ⟨catches, owned, self, sends, fun _ after => after⟩
  | cons y xs ih =>
    obtain ⟨shows, owned', self', sends', later⟩ := catches
    exact ⟨shows, owned', self', sends', fun copy' after => ih (later copy' after)⟩

structure Follows (c : Enums) (budgetMode : Bool) (i : UInt16) (u : UInt64) (l : Link) : Prop where
  registered : Registered i u l
  catches : Catches c budgetMode i l.sender l.inFlight (l.receiver.peerState u)

theorem Follows.step (follows : Follows c budgetMode i u l) (step : Step c budgetMode i u l op m)
    (knows : Knows c i u l op) : Follows c budgetMode i u m := by
  have registered := follows.registered.step step
  obtain ⟨⟨self, player⟩, catches⟩ := follows
  refine ⟨registered, ?_⟩
  cases step with
  | @callback x logging =>
    change Catches c budgetMode i (Sent.after c ⟨l.sender, x⟩) (l.inFlight ++ _) _
    split
    · rename_i sends
      exact catches.snoc knows self sends
    · rename_i spared
      rw [List.append_nil]
      exact catches.moves fun _ shows => Shows.unsent spared shows
  | @deliver x rest logging next =>
    rw [next] at catches
    obtain ⟨shows, owned, self', sends, later⟩ := catches
    have known := knows x (by rw [next]; rfl)
    exact later _ (Shows.arrives shows self' player ⟨owned.1, owned.2, known⟩ sends)
  | sender =>
    obtain ⟨x, idle, rfl⟩ := knows
    refine catches.moves fun _ shows => ?_
    rw [localState_handle c idle]
    exact shows
  | receiver =>
    obtain ⟨x, foreign, rfl⟩ := knows
    exact catches.kept (kept_handle c foreign)

variable (c budgetMode) in
def calls (l : Link) (xs : List Callback) : Link :=
  xs.foldl (fun l x => l.call c budgetMode x false) l

theorem run_calls (l : Link) (xs : List Callback) (owned : ∀ x ∈ xs, Owned i x) :
    Run (fun l op m => Step c budgetMode i u l op m ∧ Knows c i u l op) l
      (xs.map (.callback · false)) (l.calls c budgetMode xs) := by
  induction xs using List.reverseRecOn with
  | nil => exact .nil
  | append_singleton xs x ih =>
    have before := ih fun y mem => owned y (List.mem_append_left _ mem)
    rw [List.map_append, List.map_singleton, calls, List.foldl_concat]
    exact before.snoc ⟨.callback, owned x (by simp)⟩

def joins : HandlerCall :=
  .localCombat (.combat ⟨fightEvent 25 0 1 0, ⟨some [68], 99, 1, 0, 1, 1⟩,
    ⟨some [67], 88, 1, 0, 0, 1⟩, {}⟩)

def next (l : Link) : Link :=
  match l.inFlight with
  | [] => l
  | x :: rest => l.receive .documented 5 (x.event .documented) rest false

def begun : Link := next (fightLink.calls .documented true fight)

def joined : Link :=
  next { begun with receiver := EventProcessor.handle .documented begun.receiver joins }

theorem run_joined : ∃ r, Run
    (fun l op m => Step .documented true 5 77 l op m ∧ Knows .documented 5 77 l op) fightLink
    (fight.map (.callback · false) ++ [.deliver false] ++ [.receiver r] ++ [.deliver false])
    joined := by
  have owned : ∀ x ∈ fight, Owned 5 x := fun x mem => (fight_consistent x mem).owned
  refine ⟨_, .snoc (.snoc (.snoc (run_calls fightLink fight owned) ⟨.deliver rfl, ?_⟩)
    ⟨.receiver fightTable_self, joins, trivial, rfl⟩) ⟨.deliver rfl, ?_⟩⟩
  · rintro x ⟨⟩
    exact fightTable_enemy
  · rintro x ⟨⟩
    exact fightTable_enemy

end Copy

end Link

end ArcdpsHealing.Processor
