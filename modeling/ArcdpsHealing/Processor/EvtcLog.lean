import ArcdpsHealing.Processor.Recorded
import ArcdpsHealing.Processor.Relay

/-! The healing events that are written to arcdps logs. -/

namespace ArcdpsHealing.Processor

open Arcdps Networking

namespace HealingEventFlags

def targetIsDowned : UInt8 := (1 : UInt8) <<< 5
def eventCameFromDestination : UInt8 := (1 : UInt8) <<< 6
def eventCameFromSource : UInt8 := (1 : UInt8) <<< 7

def others : UInt8 := ~~~(eventCameFromSource ||| eventCameFromDestination ||| targetIsDowned)

end HealingEventFlags

open HealingEventFlags

section Event

variable (instanceId : UInt16) (e : CbtEvent)

/-- `new_is_offcycle`. -/
def newIsOffcycle : UInt8 :=
  let flags := e.isOffcycle &&& others
  let flags := if e.srcInstid = instanceId ∨ e.srcMasterInstid = instanceId then
    flags ||| eventCameFromSource else flags
  let flags := if e.dstInstid = instanceId ∨ e.dstMasterInstid = instanceId then
    flags ||| eventCameFromDestination else flags
  if e.buff ≠ 0 ∧ e.buffDmg ≠ 0 ∧ e.isOffcycle = 1 then flags ||| targetIsDowned else flags

/-- `logEvent`, as the player with the instance id tells of it. -/
def logEvent : CbtEvent :=
  { e with
    value := -e.value
    buffDmg := -e.buffDmg
    isOffcycle := newIsOffcycle instanceId e }

def readLog : CbtEvent :=
  { e with
    value := -e.value
    buffDmg := -e.buffDmg
    isOffcycle := e.isOffcycle &&& others }

end Event

section Flags

theorem or_and (a b c : UInt8) : (a ||| b) &&& c = a &&& c ||| b &&& c := by
  apply UInt8.toBitVec_inj.mp
  ext i
  simp [Bool.and_or_distrib_right]

theorem ite_or_and (p : Prop) [Decidable p] (a b c : UInt8) :
    (if p then a ||| b else a) &&& c = a &&& c ||| if p then b &&& c else 0 := by
  split
  · exact or_and a b c
  · exact UInt8.or_zero.symm

variable (i : UInt16) (e : CbtEvent)

theorem newIsOffcycle_and (mask : UInt8) : newIsOffcycle i e &&& mask =
    ((e.isOffcycle &&& (others &&& mask) |||
      if e.srcInstid = i ∨ e.srcMasterInstid = i then eventCameFromSource &&& mask else 0) |||
      if e.dstInstid = i ∨ e.dstMasterInstid = i then eventCameFromDestination &&& mask else 0) |||
      if e.buff ≠ 0 ∧ e.buffDmg ≠ 0 ∧ e.isOffcycle = 1 then targetIsDowned &&& mask else 0 := by
  unfold newIsOffcycle
  dsimp only
  rw [ite_or_and, ite_or_and, ite_or_and, UInt8.and_assoc]

theorem newIsOffcycle_others : newIsOffcycle i e &&& others = e.isOffcycle &&& others := by
  have source : eventCameFromSource &&& others = 0 := rfl
  have destination : eventCameFromDestination &&& others = 0 := rfl
  have downed : targetIsDowned &&& others = 0 := rfl
  rw [newIsOffcycle_and, source, destination, downed, UInt8.and_self]
  simp only [ite_self, UInt8.or_zero]

theorem ite_ne_zero (p : Prop) [Decidable p] {flag : UInt8} (set : flag ≠ 0) :
    (if p then flag else 0) ≠ 0 ↔ p := by
  split
  · rename_i holds
    exact iff_of_true set holds
  · rename_i fails
    exact iff_of_false (fun ne => ne rfl) fails

theorem newIsOffcycle_source : newIsOffcycle i e &&& eventCameFromSource ≠ 0 ↔
    e.srcInstid = i ∨ e.srcMasterInstid = i := by
  have others : others &&& eventCameFromSource = 0 := rfl
  have destination : eventCameFromDestination &&& eventCameFromSource = 0 := rfl
  have downed : targetIsDowned &&& eventCameFromSource = 0 := rfl
  rw [newIsOffcycle_and, others, destination, downed, UInt8.and_zero, UInt8.and_self]
  simp only [ite_self, UInt8.or_zero, UInt8.zero_or]
  exact ite_ne_zero _ (by decide)

theorem newIsOffcycle_destination : newIsOffcycle i e &&& eventCameFromDestination ≠ 0 ↔
    e.dstInstid = i ∨ e.dstMasterInstid = i := by
  have others : others &&& eventCameFromDestination = 0 := rfl
  have source : eventCameFromSource &&& eventCameFromDestination = 0 := rfl
  have downed : targetIsDowned &&& eventCameFromDestination = 0 := rfl
  rw [newIsOffcycle_and, others, source, downed, UInt8.and_zero, UInt8.and_self]
  simp only [ite_self, UInt8.or_zero, UInt8.zero_or]
  exact ite_ne_zero _ (by decide)

theorem newIsOffcycle_downed : newIsOffcycle i e &&& targetIsDowned ≠ 0 ↔
    e.buff ≠ 0 ∧ e.buffDmg ≠ 0 ∧ e.isOffcycle = 1 := by
  have others : others &&& targetIsDowned = 0 := rfl
  have source : eventCameFromSource &&& targetIsDowned = 0 := rfl
  have destination : eventCameFromDestination &&& targetIsDowned = 0 := rfl
  rw [newIsOffcycle_and, others, source, destination, UInt8.and_zero, UInt8.and_self]
  simp only [ite_self, UInt8.or_zero, UInt8.zero_or]
  exact ite_ne_zero _ (by decide)

end Flags

section Amounts

variable {c : Enums} {i : UInt16} {e : CbtEvent}

theorem toInt_neg_of_pos {x : Int32} (pos : 0 < x) : (-x).toInt = -x.toInt := by
  have positive := Int32.lt_iff_toInt_lt.mp pos
  have bound := x.toInt_lt
  rw [Int32.toInt_zero] at positive
  rw [Int32.toInt_neg]
  exact Int.bmod_eq_of_le (by omega) (by omega)

structure Deals (c : Enums) (e : CbtEvent) : Prop where
  isStatechange : e.isStatechange = 0
  isActivation : e.isActivation = 0
  isBuffremove : e.isBuffremove = 0
  result : e.buff = 0 → e.result = c.strikeDamageNormal ∨ e.result = c.strikeDamageCrit ∨
    e.result = c.strikeDamageGlance

theorem Deals.logEvent (deals : Deals c e) : Deals c (logEvent i e) :=
  ⟨deals.isStatechange, deals.isActivation, deals.isBuffremove, deals.result⟩

theorem getEventType_eq_healing (isLocal : Bool) : getEventType c e isLocal = .healing ↔
    Deals c e ∧ if isLocal then 0 < classifiedAmount e else classifiedAmount e < 0 := by
  -- Healing is positive for self and negative in the area.
  have sign (x : Int32) : (if x = 0 then EventType.semiDamaging
      else if (isLocal ∧ x < 0) ∨ (¬ isLocal ∧ 0 < x) then .damage else .healing) = .healing ↔
      if isLocal then 0 < x else x < 0 := by
    simp only [Int32.lt_iff_toInt_lt, ← Int32.toInt_inj, Int32.toInt_zero]
    cases isLocal with
    | true =>
      simp only [not_true_eq_false, true_and, false_and, or_false, if_true]
      grind
    | false =>
      simp only [Bool.false_eq_true, not_false_eq_true, true_and, false_and, false_or, if_false]
      grind
  unfold getEventType classifiedAmount
  split
  case isTrue other =>
    refine iff_of_false (by rintro ⟨⟩) ?_
    rintro ⟨⟨change, activation, remove, -⟩, -⟩
    obtain ne | ne | ne := other
    · exact ne change
    · exact ne activation
    · exact ne remove
  rename_i plain
  simp only [not_or, ne_eq, not_not] at plain
  obtain ⟨change, activation, remove⟩ := plain
  by_cases buff : e.buff = 0
  · rw [if_pos buff, if_pos buff]
    split
    case isTrue hits =>
      rw [sign]
      exact (and_iff_right ⟨change, activation, remove, fun _ => hits⟩).symm
    case isFalse misses =>
      refine iff_of_false ?_ fun both => misses (both.1.result buff)
      split <;> rintro ⟨⟩
  · rw [if_neg buff, if_neg buff, sign]
    exact (and_iff_right ⟨change, activation, remove, fun zero => absurd zero buff⟩).symm

theorem classifiedAmount_logEvent : classifiedAmount (logEvent i e) = -classifiedAmount e := by
  unfold classifiedAmount logEvent
  dsimp only
  split <;> rfl

theorem getEventType_logEvent (heals : getEventType c e true = .healing) :
    getEventType c (logEvent i e) false = .healing := by
  obtain ⟨deals, pos⟩ := (getEventType_eq_healing true).mp heals
  rw [if_pos rfl] at pos
  have positive := Int32.lt_iff_toInt_lt.mp pos
  rw [Int32.toInt_zero] at positive
  refine (getEventType_eq_healing false).mpr ⟨deals.logEvent, ?_⟩
  rw [if_neg Bool.false_ne_true, classifiedAmount_logEvent, Int32.lt_iff_toInt_lt,
    toInt_neg_of_pos pos, Int32.toInt_zero]
  omega

theorem readLog_logEvent :
    readLog (logEvent i e) = { e with isOffcycle := e.isOffcycle &&& others } := by
  unfold readLog logEvent
  dsimp only
  rw [newIsOffcycle_others, Int32.neg_neg, Int32.neg_neg]

/-- Whoever reads a log finds the event, which counts as healing there, and who
has told of it. -/
theorem log_decodes (i : UInt16) (e : CbtEvent) (heals : getEventType c e true = .healing) :
    let l := logEvent i e
    getEventType c l false = .healing ∧
      (classifiedAmount l).toInt = -(classifiedAmount e).toInt ∧
      readLog l = { e with isOffcycle := e.isOffcycle &&& others } ∧
      (l.isOffcycle &&& eventCameFromSource ≠ 0 ↔ e.srcInstid = i ∨ e.srcMasterInstid = i) ∧
      (l.isOffcycle &&& eventCameFromDestination ≠ 0 ↔
        e.dstInstid = i ∨ e.dstMasterInstid = i) ∧
      (l.isOffcycle &&& targetIsDowned ≠ 0 ↔ e.buff ≠ 0 ∧ e.isOffcycle = 1) := by
  obtain ⟨-, pos⟩ := (getEventType_eq_healing true).mp heals
  rw [if_pos rfl] at pos
  refine ⟨getEventType_logEvent heals, ?_, readLog_logEvent, newIsOffcycle_source i e,
    newIsOffcycle_destination i e, (newIsOffcycle_downed i e).trans ?_⟩
  · rw [classifiedAmount_logEvent]
    exact toInt_neg_of_pos pos
  · refine and_congr_right fun buff => and_iff_right fun zero => ?_
    unfold classifiedAmount at pos
    rw [if_neg buff, zero] at pos
    exact absurd pos (by decide)

theorem log_decodes_glyph :
    let e : CbtEvent := ⟨30, 77, 88, 0, 12, 0, 55026, 5, 9, 0, 0, 0, 1, 0, 0, 0, 0, 0, 0, 0, 0, 0,
      1, 0, 0, 0, 0⟩
    let l := logEvent 5 e
    getEventType .documented l false = .healing ∧
      (classifiedAmount l).toInt = -(classifiedAmount e).toInt ∧
      readLog l = { e with isOffcycle := e.isOffcycle &&& others } ∧
      (l.isOffcycle &&& eventCameFromSource ≠ 0 ↔ e.srcInstid = 5 ∨ e.srcMasterInstid = 5) ∧
      (l.isOffcycle &&& eventCameFromDestination ≠ 0 ↔
        e.dstInstid = 5 ∨ e.dstMasterInstid = 5) ∧
      (l.isOffcycle &&& targetIsDowned ≠ 0 ↔ e.buff ≠ 0 ∧ e.isOffcycle = 1) :=
  log_decodes 5 _ (by decide)

end Amounts

section Logs

/-- The agents as the receiver knows them. -/
def fixAgents (table : AgentTable) (l : CbtEvent) : CbtEvent :=
  { l with
    srcAgent := (table.getUniqueId l.srcInstid true).getD 0
    dstAgent := (table.getUniqueId l.dstInstid true).getD 0 }

variable (c : Enums) (evtcLoggingEnabled : Bool) (p : EventProcessor) (event : CbtEvent)

/-- What `LocalCombat` gives to `ARC_E10`. -/
def localLog : Option CbtEvent :=
  let e := preProcessEvent c event true
  if e.isStatechange = c.enterCombat then none
  else if e.isStatechange = c.exitCombat then none
  else
    match getEventType c e true with
    | .damage | .semiDamaging => none
    | .other => none
    | .healing =>
      if evtcLoggingEnabled then some (logEvent p.selfInstanceId.toUInt16 e) else none

/-- What `PeerCombat` gives to `ARC_E10`. The unique ids of a peer mean nothing here. -/
def peerLog (peerInstanceId : UInt16) : Option CbtEvent :=
  let e := preProcessEvent c event true
  match p.agentTable.getUniqueId peerInstanceId false with
  | none => none
  | some _ =>
    if e.isStatechange = c.enterCombat then none
    else if e.isStatechange = c.exitCombat then none
    else
      match getEventType c e true with
      | .damage | .semiDamaging => none
      | .other => none
      | .healing =>
        if evtcLoggingEnabled then some (logEvent peerInstanceId (fixAgents p.agentTable e))
        else none

variable {c evtcLoggingEnabled p event} {i : UInt16} {u : UInt64}

theorem localLog_of_heals (heals : EventProcessor.Heals c event) :
    localLog c evtcLoggingEnabled p event = if evtcLoggingEnabled then
      some (logEvent p.selfInstanceId.toUInt16 (preProcessEvent c event true)) else none := by
  obtain ⟨enter, exit, type⟩ := EventProcessor.heals_preProcessEvent.mpr heals
  unfold localLog
  dsimp only
  rw [if_neg enter, if_neg exit, type]

theorem localLog_of_not_heals (quiet : ¬ EventProcessor.Heals c event) :
    localLog c evtcLoggingEnabled p event = none := by
  rw [← EventProcessor.heals_preProcessEvent] at quiet
  unfold localLog
  dsimp only
  split
  · rfl
  rename_i enter
  split
  · rfl
  rename_i exit
  split
  · rfl
  · rfl
  · rfl
  · rename_i type
    exact absurd ⟨enter, exit, type⟩ quiet

theorem peerLog_of_heals (player : p.agentTable.getUniqueId i false = some u)
    (heals : EventProcessor.Heals c event) :
    peerLog c evtcLoggingEnabled p event i = if evtcLoggingEnabled then
      some (logEvent i (fixAgents p.agentTable (preProcessEvent c event true))) else none := by
  obtain ⟨enter, exit, type⟩ := EventProcessor.heals_preProcessEvent.mpr heals
  unfold peerLog
  dsimp only
  rw [player]
  dsimp only
  rw [if_neg enter, if_neg exit, type]

theorem peerLog_of_not_heals (quiet : ¬ EventProcessor.Heals c event) :
    peerLog c evtcLoggingEnabled p event i = none := by
  rw [← EventProcessor.heals_preProcessEvent] at quiet
  unfold peerLog
  dsimp only
  split
  · rfl
  split
  · rfl
  rename_i enter
  split
  · rfl
  rename_i exit
  split
  · rfl
  · rfl
  · rfl
  · rename_i type
    exact absurd ⟨enter, exit, type⟩ quiet

theorem heals_forwarded {x : Callback} :
    EventProcessor.Heals c (forwarded c p x) ↔ EventProcessor.Heals c x.event := by
  have sent : forwarded c p x = _ :=
    EventProcessor.forwarded_localCombat c p x.env x.event x.source x.destination
  rw [sent, ← EventProcessor.heals_preProcessEvent (e := x.event)]
  split
  · rename_i exits
    refine iff_of_false (fun heals => ?_) fun heals => heals.exit exits.1
    exact heals.exit ((CbtEvent.isStatechange_writeIff _ _).trans exits.1)
  · rfl

theorem forwarded_of_heals {x : Callback} (heals : EventProcessor.Heals c x.event) :
    forwarded c p x = preProcessEvent c x.event true := by
  have sent : forwarded c p x = _ :=
    EventProcessor.forwarded_localCombat c p x.env x.event x.source x.destination
  rw [sent, if_neg]
  exact fun exits => (EventProcessor.heals_preProcessEvent.mpr heals).exit exits.1

theorem peerLog_forwarded {s r : EventProcessor} {x : Callback} {budgetMode : Bool}
    (self : s.selfInstanceId = i.toUInt32) (player : r.agentTable.getUniqueId i false = some u) :
    (if sendsEvent c budgetMode (forwarded c s x) then
      peerLog c evtcLoggingEnabled r (forwarded c s x) i else none) =
      (localLog c evtcLoggingEnabled s x.event).map (fixAgents r.agentTable) := by
  by_cases heals : EventProcessor.Heals c x.event
  · have sent := heals_forwarded (p := s).mpr heals
    have sends : sendsEvent c budgetMode (forwarded c s x) := fun _ => .inl sent.type
    have same : s.selfInstanceId.toUInt16 = i := by
      rw [self, UInt16.toUInt16_toUInt32]
    rw [if_pos sends, peerLog_of_heals player sent, localLog_of_heals heals,
      forwarded_of_heals heals, preProcessEvent_idem, same]
    cases evtcLoggingEnabled <;> rfl
  · rw [localLog_of_not_heals heals, peerLog_of_not_heals (mt heals_forwarded.mp heals), ite_self]
    rfl

end Logs

end ArcdpsHealing.Processor
