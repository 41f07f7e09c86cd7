import ArcdpsHealing.Networking.LocalEvent
import ArcdpsHealing.Processor.Calls

namespace ArcdpsHealing.Processor

open Arcdps Networking PlayerStats

namespace EventProcessor

variable (c : Enums)

theorem agentTable_peerCombat (p : EventProcessor) (e : CbtEvent) (i : UInt16) :
    (peerCombat c p e i).agentTable = p.agentTable := by
  unfold peerCombat
  split <;> rfl

theorem peerState_peerCombat {p : EventProcessor} {i : UInt16} {u : UInt64}
    (known : p.agentTable.getUniqueId i false = some u) (e : CbtEvent) :
    (peerCombat c p e i).peerState u =
      peerUpdate c p (preProcessEvent c e true) i (p.peerState u) := by
  simp only [peerCombat, known]
  rw [peerState, Std.ExtTreeMap.getElem?_insert_self]
  rfl

theorem peerCall_congr {p p' : EventProcessor} (same : p'.agentTable = p.agentTable) (e : CbtEvent)
    (i : UInt16) : peerCall c p' e i = peerCall c p e i := by
  unfold peerCall
  rw [same]

end EventProcessor

structure Callback where
  event : CbtEvent
  source : Ag
  destination : Ag
  env : Ambient

structure Pair where
  sender : EventProcessor
  receiver : EventProcessor

variable (c : Enums)

/-- `ProcessLocalEvent` on one side, and on the other `PeerCombat` for the
event if it is sent. -/
def relay (budgetMode : Bool) (i : UInt16) (p : Pair) (x : Callback) : Pair :=
  let r := p.sender.localCombat c x.env x.event x.source x.destination
  let forwarded := r.modified.getD r.event
  { sender := r.processor
    receiver := if sendsEvent c budgetMode forwarded then p.receiver.peerCombat c forwarded i
      else p.receiver }

/-- What the two sides agree on about a callback: who is self, and which agent
an instance id stands for. -/
structure Consistent (i : UInt16) (table : AgentTable) (x : Callback) : Prop where
  source : x.source.self ≠ 0 ↔ x.event.srcInstid = i
  destination : x.destination.self ≠ 0 ↔ x.event.dstInstid = i
  known : table.getUniqueId x.event.dstInstid true = some x.destination.id

structure Owned (i : UInt16) (x : Callback) : Prop where
  source : x.source.self ≠ 0 ↔ x.event.srcInstid = i
  destination : x.destination.self ≠ 0 ↔ x.event.dstInstid = i

structure Registered (i : UInt16) (u : UInt64) (p : Pair) : Prop where
  self : p.sender.selfInstanceId = i.toUInt32
  player : p.receiver.agentTable.getUniqueId i false = some u

variable {budgetMode : Bool} {i : UInt16} {u : UInt64} {p : Pair} {x : Callback}

theorem agentTable_relay :
    (relay c budgetMode i p x).receiver.agentTable = p.receiver.agentTable := by
  simp only [relay]
  split
  · exact EventProcessor.agentTable_peerCombat c _ _ _
  · rfl

theorem Registered.relay (h : Registered i u p) : Registered i u (relay c budgetMode i p x) := by
  constructor
  · exact (EventProcessor.selfInstanceId_localCombat c _ _ _ _ _).trans h.self
  · rw [agentTable_relay]
    exact h.player

theorem Consistent.owned {table : AgentTable} (h : Consistent i table x) : Owned i x :=
  ⟨h.source, h.destination⟩

def forwarded (s : EventProcessor) (x : Callback) : CbtEvent :=
  let r := s.localCombat c x.env x.event x.source x.destination
  r.modified.getD r.event

def ownCall (s : EventProcessor) (x : Callback) : Option PlayerStats.Call :=
  EventProcessor.localCall c s (preProcessEvent c x.event true) x.source x.destination

def sentCall (budgetMode : Bool) (i : UInt16) (s r : EventProcessor) (x : Callback) :
    Option PlayerStats.Call :=
  if sendsEvent c budgetMode (forwarded c s x) then
    EventProcessor.peerCall c r (preProcessEvent c (forwarded c s x) true) i
  else none

theorem localState_relay : (relay c budgetMode i p x).sender.localState =
    (ownCall c p.sender x).toList.foldl call p.sender.localState :=
  EventProcessor.localState_localCombat c p.sender x.env x.event x.source x.destination

theorem peerState_relay (player : p.receiver.agentTable.getUniqueId i false = some u) :
    (relay c budgetMode i p x).receiver.peerState u =
      (sentCall c budgetMode i p.sender p.receiver x).toList.foldl call
        (p.receiver.peerState u) := by
  unfold relay sentCall
  change (ite (sendsEvent c budgetMode (forwarded c p.sender x)) _ _ : EventProcessor).peerState u =
    _
  split
  · rw [← EventProcessor.peerUpdate_eq]
    exact EventProcessor.peerState_peerCombat c player _
  · rfl

theorem sentCall_congr (s : EventProcessor) {r r' : EventProcessor}
    (same : r'.agentTable = r.agentTable) :
    sentCall c budgetMode i s r' x = sentCall c budgetMode i s r x := by
  unfold sentCall
  rw [EventProcessor.peerCall_congr c same]

inductive Moves (alike : Prop) (own : PlayerStats) (e : CbtEvent) :
    Option PlayerStats.Call → Option PlayerStats.Call → Option PlayerStats.Call → Prop
  | nothing : Moves alike own e none none none
  | enters (subGroup : UInt16) : Moves alike own e (some (.enteredCombat e.time subGroup))
      (some (.enteredCombat e.time subGroup)) (some (.enteredCombat e.time subGroup))
  | exits : Moves alike own e (some (.exitedCombat e.time 0))
      (some (.exitedCombat e.time (own.exitedCombat e.time).1))
      (some (.exitedCombat e.time (own.exitedCombat e.time).1))
  | damages : Moves alike own e (some (.damageEvent e.time)) (some (.damageEvent e.time)) none
  | heals (mine theirs : Option UInt64) (same : alike → theirs = mine) :
      Moves alike own e (mine.map (recorded e)) (theirs.map (recorded e))
        (theirs.map (recorded e))

def Alike (i : UInt16) (s r : EventProcessor) (x : Callback) : Prop :=
  s.selfInstanceId = i.toUInt32 ∧
    r.agentTable.getUniqueId x.event.dstInstid true = some x.destination.id

theorem relay_moves (s r : EventProcessor) (h : Owned i x) :
    Moves (Alike i s r x) s.localState (preProcessEvent c x.event true) (ownCall c s x)
      (sentCall c false i s r x) (sentCall c true i s r x) := by
  -- The receiver tells self by the instance id where the sender looks at `self`.
  have sent := EventProcessor.forwarded_localCombat c s x.env x.event x.source x.destination
  dsimp only at sent
  change forwarded c s x = _ at sent
  have always (e : CbtEvent) : sendsEvent c false e := fun on => nomatch on
  obtain ⟨source, destination⟩ := h
  have idem := preProcessEvent_idem c x.event true
  rw [← srcInstid_preProcessEvent c x.event true] at source
  rw [← dstInstid_preProcessEvent c x.event true] at destination
  unfold ownCall sentCall Alike
  rw [← dstInstid_preProcessEvent c x.event true, sent, if_pos (always _)]
  clear sent
  generalize preProcessEvent c x.event true = e at *
  by_cases enter : e.isStatechange = c.enterCombat
  · have plain : ¬ (e.isStatechange = c.exitCombat ∧ e.isStatechange ≠ c.enterCombat ∧
        x.source.self ≠ 0) := fun h => h.2.1 enter
    have budget : sendsEvent c true e := fun _ => .inr (.inl enter)
    rw [if_neg plain, if_pos budget, idem, EventProcessor.localCall, EventProcessor.peerCall,
      if_pos enter, if_pos enter]
    by_cases own : x.source.self ≠ 0
    · rw [if_pos own, if_pos (source.mp own)]
      exact .enters _
    · rw [if_neg own, if_neg (mt source.mpr own)]
      exact .nothing
  by_cases exit : e.isStatechange = c.exitCombat
  · by_cases own : x.source.self ≠ 0
    · have budget (last : UInt64) : sendsEvent c true (e.writeIff last) :=
        fun _ => .inr (.inr exit)
      rw [if_pos ⟨exit, enter, own⟩, if_pos (budget _)]
      simp only [EventProcessor.localCall, EventProcessor.peerCall, if_neg enter, if_pos exit,
        if_pos own, isStatechange_preProcessEvent, CbtEvent.isStatechange_writeIff,
        srcInstid_preProcessEvent, CbtEvent.srcInstid_writeIff, if_pos (source.mp own),
        time_preProcessEvent, CbtEvent.time_writeIff, readIff_preProcessEvent,
        CbtEvent.readIff_writeIff]
      exact .exits
    · have plain : ¬ (e.isStatechange = c.exitCombat ∧ e.isStatechange ≠ c.enterCombat ∧
          x.source.self ≠ 0) := fun h => own h.2.2
      have budget : sendsEvent c true e := fun _ => .inr (.inr exit)
      rw [if_neg plain, if_pos budget, idem, EventProcessor.localCall, EventProcessor.peerCall,
        if_neg enter, if_neg enter, if_pos exit, if_pos exit, if_neg own,
        if_neg (mt source.mpr own)]
      exact .nothing
  have plain : ¬ (e.isStatechange = c.exitCombat ∧ e.isStatechange ≠ c.enterCombat ∧
      x.source.self ≠ 0) := fun h => exit h.1
  rw [if_neg plain, idem]
  cases type : getEventType c e true with
  | damage | semiDamaging =>
    have spared : ¬ sendsEvent c true e := by
      intro sends
      rcases sends rfl with heals | enters | exits
      · rw [type] at heals
        cases heals
      · exact enter enters
      · exact exit exits
    rw [if_neg spared]
    simp only [EventProcessor.localCall, EventProcessor.peerCall, if_neg enter, if_neg exit, type,
      source, destination]
    split
    · exact .damages
    · exact .nothing
  | other =>
    simp only [EventProcessor.localCall, EventProcessor.peerCall, if_neg enter, if_neg exit, type]
    split <;> exact .nothing
  | healing =>
    have budget : sendsEvent c true e := fun _ => .inl type
    have foreign : x.source.self = 0 ↔ e.srcInstid ≠ i := not_iff_not.mp (by simpa using source)
    rw [if_pos budget, EventProcessor.localCall_healing s enter exit type,
      EventProcessor.peerCall_healing r enter exit type]
    refine .heals _ _ ?_
    rintro ⟨self, known⟩
    simp only [known, self, UInt16.toUInt16_toUInt32, Option.bind_some, foreign]

theorem relay_calls (budgetMode : Bool)
    (player : p.receiver.agentTable.getUniqueId i false = some u) (owned : Owned i x) :
    ∃ mine full spared, Moves (Alike i p.sender p.receiver x) p.sender.localState
        (preProcessEvent c x.event true) mine full spared ∧
      (relay c budgetMode i p x).sender.localState =
        mine.toList.foldl call p.sender.localState ∧
      (relay c budgetMode i p x).receiver.peerState u =
        (if budgetMode = true then spared else full).toList.foldl call
          (p.receiver.peerState u) := by
  refine ⟨_, _, _, relay_moves c p.sender p.receiver owned, localState_relay c,
    (peerState_relay c player).trans ?_⟩
  cases budgetMode with
  | false => rw [if_neg Bool.false_ne_true]
  | true => rw [if_pos rfl]

end ArcdpsHealing.Processor
