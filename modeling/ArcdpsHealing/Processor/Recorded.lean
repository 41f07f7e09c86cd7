import ArcdpsHealing.Processor.PeerCopy

namespace ArcdpsHealing.Processor

open Arcdps

namespace PlayerStats

variable {s : PlayerStats} {h : HealEvent}

theorem events_exitedCombat (s : PlayerStats) (time last : UInt64) :
    (s.exitedCombat time last).2.events = s.events := by
  unfold exitedCombat
  split
  · rfl
  · split <;> rfl

theorem events_call_cases (s : PlayerStats) (k : Call) :
    k.event = none ∧ ((s.call k).events = s.events ∨ (s.call k).events = []) ∨
      ∃ h, k.event = some h ∧
        (s.call k).events = if s.IsOutOfCombat then s.events else s.events ++ [h] := by
  -- What a call does to the events: only one that has an event adds something, in combat and
  -- nothing but that.
  have record (e : CbtEvent) (u : UInt64) (barrier : Bool) :
      (s.record e u barrier).events =
        if s.IsOutOfCombat then s.events else s.events ++ [healEvent e u barrier] := by
    by_cases out : s.IsOutOfCombat
    · rw [record_of_out out, if_pos out]
    · rw [record_of_inCombat out, if_neg out]
  cases k with
  | enteredCombat time subGroup =>
    refine .inl ⟨rfl, ?_⟩
    change (s.enteredCombat time subGroup).events = _ ∨ (s.enteredCombat time subGroup).events = _
    by_cases out : s.IsOutOfCombat
    · exact .inr (by rw [enteredCombat_of_out out])
    · exact .inl (by rw [enteredCombat_of_inCombat out])
  | exitedCombat time last => exact .inl ⟨rfl, .inl (events_exitedCombat s time last)⟩
  | resetIfNotInCombat =>
    refine .inl ⟨rfl, ?_⟩
    change s.resetIfNotInCombat.2.events = _ ∨ s.resetIfNotInCombat.2.events = _
    by_cases out : s.IsOutOfCombat
    · exact .inr (by rw [resetIfNotInCombat_of_out out])
    · exact .inl (by rw [resetIfNotInCombat_of_inCombat out])
  | damageEvent time =>
    refine .inl ⟨rfl, .inl ?_⟩
    change (s.damageEvent time).events = _
    unfold damageEvent
    split <;> rfl
  | healingEvent e u => exact .inr ⟨_, rfl, record e u false⟩
  | barrierGenerationEvent e u => exact .inr ⟨_, rfl, record e u true⟩

theorem events_call_eq_append_iff {k : Call} :
    (s.call k).events = s.events ++ [h] ↔ ¬ s.IsOutOfCombat ∧ k.event = some h := by
  obtain ⟨none, same | cleared⟩ | ⟨h', own, added⟩ := events_call_cases s k
  · simp [none, same]
  · simp [none, cleared]
  · rw [added, own]
    by_cases out : s.IsOutOfCombat <;> simp [out]

theorem events_calls_eq_append_iff {k : Option Call} :
    (k.toList.foldl call s).events = s.events ++ [h] ↔
      ¬ s.IsOutOfCombat ∧ k.bind Call.event = some h := by
  cases k with
  | none => simp
  | some k => exact events_call_eq_append_iff

end PlayerStats

namespace EventProcessor

open PlayerStats

variable (c : Enums) (p : EventProcessor)

structure Heals (e : CbtEvent) : Prop where
  enter : e.isStatechange ≠ c.enterCombat
  exit : e.isStatechange ≠ c.exitCombat
  type : getEventType c e true = .healing

variable {c} in
theorem heals_preProcessEvent {e : CbtEvent} : Heals c (preProcessEvent c e true) ↔ Heals c e := by
  constructor
  · rintro ⟨enter, exit, type⟩
    rw [isStatechange_preProcessEvent] at enter exit
    rw [getEventType_preProcessEvent] at type
    exact ⟨enter, exit, type⟩
  · rintro ⟨enter, exit, type⟩
    constructor
    · rwa [isStatechange_preProcessEvent]
    · rwa [isStatechange_preProcessEvent]
    · rwa [getEventType_preProcessEvent]

theorem event_recorded (e : CbtEvent) (destination : UInt64) :
    (recorded e destination).event = some (healEvent e destination (e.isShields ≠ 0)) := by
  unfold recorded
  split
  case isTrue shields =>
    rw [decide_eq_true shields]
    rfl
  case isFalse heals =>
    rw [decide_eq_false heals]
    rfl

theorem event_localCall_of_not_heals {e : CbtEvent} (quiet : ¬ Heals c e)
    (source destination : Ag) :
    (localCall c p e source destination).bind Call.event = none := by
  unfold localCall
  split
  case isTrue => split <;> rfl
  split
  case isTrue => split <;> rfl
  rename_i enter exit
  cases type : getEventType c e true with
  | damage | semiDamaging =>
    dsimp only
    split <;> rfl
  | other => rfl
  | healing => exact absurd ⟨enter, exit, type⟩ quiet

theorem event_peerCall_of_not_heals {e : CbtEvent} (quiet : ¬ Heals c e) (i : UInt16) :
    (peerCall c p e i).bind Call.event = none := by
  cases made : peerCall c p e i with
  | none => rfl
  | some k =>
    obtain ⟨-, rfl⟩ | ⟨-, -, rfl⟩ | rfl | ⟨enter, exit, type, -⟩ := peerCall_cases made
    · rfl
    · rfl
    · rfl
    · exact absurd ⟨enter, exit, type⟩ quiet

theorem localCall_eq_some_iff {e : CbtEvent} {source destination : Ag} {h : HealEvent} :
    (localCall c p e source destination).bind Call.event = some h ↔
      Heals c e ∧ (source.self ≠ 0 ∨ e.srcMasterInstid = p.selfInstanceId.toUInt16) ∧
        healEvent e destination.id (e.isShields ≠ 0) = h := by
  by_cases heals : Heals c e
  · rw [localCall_healing p heals.enter heals.exit heals.type, and_iff_right heals]
    split
    case isTrue foreign => simp [foreign]
    case isFalse own =>
      rw [not_and_or, not_not] at own
      simp [own, event_recorded]
  · rw [event_localCall_of_not_heals c p heals]
    simp [heals]

theorem peerCall_eq_some_iff {e : CbtEvent} {i : UInt16} {h : HealEvent} :
    (peerCall c p e i).bind Call.event = some h ↔
      Heals c e ∧ (e.srcInstid = i ∨ e.srcMasterInstid = i) ∧
        ∃ u, p.agentTable.getUniqueId e.dstInstid true = some u ∧
          healEvent e u (e.isShields ≠ 0) = h := by
  by_cases heals : Heals c e
  · rw [peerCall_healing p heals.enter heals.exit heals.type, and_iff_right heals]
    cases p.agentTable.getUniqueId e.dstInstid true with
    | none => simp
    | some u =>
      rw [Option.bind_some]
      split
      case isTrue foreign => simp [foreign]
      case isFalse own =>
        rw [not_and_or, not_not, not_not] at own
        simp [own, event_recorded]
  · rw [event_peerCall_of_not_heals c p heals]
    simp [heals]

variable {c p}

theorem events_localCombat_iff {env : Ambient} {e : CbtEvent} {source destination : Ag}
    {h : HealEvent} :
    (localCombat c env p e source destination).processor.localState.events =
        p.localState.events ++ [h] ↔
      ¬ p.localState.IsOutOfCombat ∧ Heals c e ∧
        (source.self ≠ 0 ∨ e.srcMasterInstid = p.selfInstanceId.toUInt16) ∧
        healEvent (preProcessEvent c e true) destination.id (e.isShields ≠ 0) = h := by
  rw [localState_localCombat, events_calls_eq_append_iff, localCall_eq_some_iff,
    heals_preProcessEvent, srcMasterInstid_preProcessEvent, isShields_preProcessEvent]

theorem peerState_peerCombat_of_ne {e : CbtEvent} {i : UInt16} {u : UInt64}
    (other : p.agentTable.getUniqueId i false ≠ some u) :
    (peerCombat c p e i).peerState u = p.peerState u := by
  unfold peerCombat
  split
  case h_1 => rfl
  case h_2 v known =>
    have ne : v ≠ u := fun same => other (known.trans (congrArg some same))
    unfold peerState
    rw [Std.ExtTreeMap.getElem?_insert, if_neg (by simpa using ne)]

theorem events_peerCombat_iff {e : CbtEvent} {i : UInt16} {u : UInt64} {h : HealEvent} :
    ((peerCombat c p e i).peerState u).events = (p.peerState u).events ++ [h] ↔
      p.agentTable.getUniqueId i false = some u ∧ ¬ (p.peerState u).IsOutOfCombat ∧ Heals c e ∧
        (e.srcInstid = i ∨ e.srcMasterInstid = i) ∧
        ∃ v, p.agentTable.getUniqueId e.dstInstid true = some v ∧
          healEvent (preProcessEvent c e true) v (e.isShields ≠ 0) = h := by
  by_cases mine : p.agentTable.getUniqueId i false = some u
  · rw [peerState_peerCombat c mine, peerUpdate_eq, events_calls_eq_append_iff,
      peerCall_eq_some_iff, heals_preProcessEvent, srcInstid_preProcessEvent,
      srcMasterInstid_preProcessEvent, dstInstid_preProcessEvent, isShields_preProcessEvent]
    simp [mine]
  · refine iff_of_false ?_ fun x => mine x.1
    rw [peerState_peerCombat_of_ne mine]
    simp

end EventProcessor

section Size

variable {e : CbtEvent} {h : HealEvent} (c : Enums)

def classifiedAmount (e : CbtEvent) : Int32 := if e.buff = 0 then e.value else e.buffDmg

/-- The record holds that amount, which is positive. -/
structure SizeIsClassified (e : CbtEvent) (h : HealEvent) : Prop where
  size : (h.size.toNat : Int) = (classifiedAmount e).toInt
  pos : 1 ≤ h.size.toNat
  le : h.size.toNat ≤ 2 ^ 31 - 1

/-- The two fields leave no choice what the amount is. -/
def OneAmount (e : CbtEvent) : Prop := e.buff = 0 ∨ e.value = 0 ∨ e.value = e.buffDmg

def PlayerStats.Call.AmountNonzero : PlayerStats.Call → Prop
  | .healingEvent e _ => e.value.toUInt32 = 0 → e.buffDmg.toUInt32 ≠ 0
  | .barrierGenerationEvent e _ => e.value.toUInt32 = 0 → e.buffDmg.toUInt32 ≠ 0
  | _ => True

theorem toNat_toUInt32_of_pos {x : Int32} (pos : 0 < x) : (x.toUInt32.toNat : Int) = x.toInt := by
  rw [Int32.toNat_toUInt32_of_le (Int32.le_of_lt pos), Int32.cast_toNatClampNeg x
    (Int32.le_of_lt pos)]

theorem toUInt32_eq_zero_iff {x : Int32} : x.toUInt32 = 0 ↔ x = 0 :=
  ⟨fun zero => by simpa using congrArg UInt32.toInt32 zero, fun zero => by rw [zero]; rfl⟩

variable {c} in
theorem EventProcessor.Heals.pos (heals : EventProcessor.Heals c e) : 0 < classifiedAmount e := by
  -- Whichever field is looked at, it is neither zero nor negative.
  have positive {x : Int32} (ne : x ≠ 0)
      (local' : ¬ ((true = true ∧ x < 0) ∨ (¬ true = true ∧ 0 < x))) : 0 < x := by
    have le : 0 ≤ x := Int32.not_lt.mp fun neg => local' (.inl ⟨rfl, neg⟩)
    exact Int32.lt_of_le_of_ne le ne.symm
  have type := heals.type
  unfold getEventType at type
  unfold classifiedAmount
  split at type
  case isTrue => nomatch type
  by_cases buff : e.buff = 0
  · rw [if_pos buff] at type ⊢
    split at type
    case isTrue =>
      split at type
      case isTrue => nomatch type
      rename_i ne
      split at type
      case isTrue => nomatch type
      rename_i local'
      exact positive ne local'
    case isFalse => split at type <;> nomatch type
  · rw [if_neg buff] at type ⊢
    split at type
    case isTrue => nomatch type
    rename_i ne
    split at type
    case isTrue => nomatch type
    rename_i local'
    exact positive ne local'

theorem size_healEvent_iff (pos : 0 < classifiedAmount e) (u : UInt64) (barrier : Bool) :
    ((PlayerStats.healEvent e u barrier).size.toNat : Int) = (classifiedAmount e).toInt ↔
      OneAmount e := by
  -- The record takes `value` unless that is zero, whatever `buff` says.
  have size : (PlayerStats.healEvent e u barrier).size.toNat =
      (if e.value = 0 then e.buffDmg else e.value).toUInt32.toNat := by
    simp only [PlayerStats.healEvent, toUInt32_eq_zero_iff, UInt32.toNat_toUInt64]
    split <;> rfl
  have same (x : Int32) : (x.toUInt32.toNat : Int) = (classifiedAmount e).toInt ↔
      x = classifiedAmount e := by
    rw [← toNat_toUInt32_of_pos pos, Int.natCast_inj, UInt32.toNat_inj]
    exact ⟨fun eq => by simpa using congrArg UInt32.toInt32 eq, congrArg _⟩
  rw [size, same]
  unfold classifiedAmount at pos ⊢
  unfold OneAmount
  by_cases buff : e.buff = 0
  · rw [if_pos buff] at pos ⊢
    have ne : e.value ≠ 0 := (Int32.ne_of_lt pos).symm
    simp [buff, ne]
  · rw [if_neg buff] at pos ⊢
    by_cases zero : e.value = 0
    · simp [zero]
    · simp [buff, zero]

theorem sizeIsClassified_iff (pos : 0 < classifiedAmount e) (u : UInt64) (barrier : Bool) :
    SizeIsClassified e (PlayerStats.healEvent e u barrier) ↔ OneAmount e := by
  rw [← size_healEvent_iff pos u barrier]
  refine ⟨SizeIsClassified.size, fun size => ⟨size, ?_, ?_⟩⟩
  · have := Int32.lt_iff_toInt_lt.mp pos
    rw [Int32.toInt_zero] at this
    omega
  · have := (classifiedAmount e).toInt_lt
    omega

theorem size_healEvent_ne_zero (pos : 0 < classifiedAmount e) (u : UInt64) (barrier : Bool) :
    (PlayerStats.healEvent e u barrier).size ≠ 0 := by
  have ne : e.value = 0 → e.buffDmg ≠ 0 := by
    unfold classifiedAmount at pos
    intro value
    split at pos
    · exact absurd value (Int32.ne_of_lt pos).symm
    · exact (Int32.ne_of_lt pos).symm
  rw [← UInt64.toNat_inj.ne]
  simp only [PlayerStats.healEvent, toUInt32_eq_zero_iff, UInt32.toNat_toUInt64]
  split
  case isTrue value =>
    exact fun zero => ne value (toUInt32_eq_zero_iff.mp (UInt32.toNat_inj.mp zero))
  case isFalse value =>
    exact fun zero => value (toUInt32_eq_zero_iff.mp (UInt32.toNat_inj.mp zero))

theorem size_healEvent_preProcessEvent (u : UInt64) (barrier : Bool) :
    (PlayerStats.healEvent (preProcessEvent c e true) u barrier).size =
      (PlayerStats.healEvent e u barrier).size := by
  unfold preProcessEvent
  split <;> rfl

theorem PlayerStats.Call.amountNonzero {made : Option PlayerStats.Call}
    (nonzero : ∀ h, made.bind PlayerStats.Call.event = some h → h.size ≠ 0) :
    ∀ k ∈ made, k.AmountNonzero := by
  rintro k rfl
  have amount (e : CbtEvent) (u : UInt64) (barrier : Bool)
      (ne : (PlayerStats.healEvent e u barrier).size ≠ 0) :
      e.value.toUInt32 = 0 → e.buffDmg.toUInt32 ≠ 0 := by
    intro value zero
    simp [PlayerStats.healEvent, value, zero] at ne
  cases k with
  | enteredCombat | exitedCombat | resetIfNotInCombat | damageEvent => trivial
  | healingEvent e u => exact amount e u false (nonzero _ rfl)
  | barrierGenerationEvent e u => exact amount e u true (nonzero _ rfl)

open EventProcessor in
/-- Whatever is recorded has the classified amount for its size just when the
event has one amount only, and an amount of zero is never extracted. -/
theorem recorded_size_iff (p : EventProcessor) (env : Ambient) (e : CbtEvent)
    (source destination : Ag) (i : UInt16) :
    (∀ h, (localCombat c env p e source destination).processor.localState.events =
        p.localState.events ++ [h] → (SizeIsClassified e h ↔ OneAmount e)) ∧
      (∀ u h, ((peerCombat c p e i).peerState u).events = (p.peerState u).events ++ [h] →
        (SizeIsClassified e h ↔ OneAmount e)) ∧
      (∀ k ∈ localCall c p (preProcessEvent c e true) source destination, k.AmountNonzero) ∧
      ∀ k ∈ peerCall c p (preProcessEvent c e true) i, k.AmountNonzero := by
  have right (heals : Heals c e) (u : UInt64) (barrier : Bool) :
      SizeIsClassified e (PlayerStats.healEvent (preProcessEvent c e true) u barrier) ↔
        OneAmount e := by
    rw [← sizeIsClassified_iff heals.pos u barrier]
    have size := size_healEvent_preProcessEvent (e := e) c u barrier
    exact ⟨fun x => ⟨size ▸ x.size, size ▸ x.pos, size ▸ x.le⟩,
      fun x => ⟨size.symm ▸ x.size, size.symm ▸ x.pos, size.symm ▸ x.le⟩⟩
  refine ⟨fun h new => ?_, fun u h new => ?_, PlayerStats.Call.amountNonzero fun h made => ?_,
    PlayerStats.Call.amountNonzero fun h made => ?_⟩
  · obtain ⟨-, heals, -, rfl⟩ := events_localCombat_iff.mp new
    exact right heals _ _
  · obtain ⟨-, -, heals, -, v, -, rfl⟩ := events_peerCombat_iff.mp new
    exact right heals _ _
  · obtain ⟨heals, -, rfl⟩ := (localCall_eq_some_iff c p).mp made
    exact size_healEvent_ne_zero heals.pos _ _
  · obtain ⟨heals, -, v, -, rfl⟩ := (peerCall_eq_some_iff c p).mp made
    exact size_healEvent_ne_zero heals.pos _ _

/-- A buff event of 7 whose `value` is 5 is recorded with a size of 5. -/
theorem recorded_size_fails :
    let self : Ag := ⟨some [65], 77, 1, 0, 1, 1⟩
    let other : Ag := ⟨some [67], 88, 1, 0, 0, 1⟩
    let e := { fightEvent 30 1 0 7 with value := 5 }
    let p := (EventProcessor.localCombat .documented {} {} (fightEvent 10 0 1 0) self
      other).processor
    let q := (EventProcessor.localCombat .documented {} p e self other).processor
    p.localState.events = [] ∧ q.localState.events = [⟨30, 5, 88, 100, false, false⟩] ∧
      getEventType .documented e true = .healing ∧
      ¬ SizeIsClassified e ⟨30, 5, 88, 100, false, false⟩ := by
  refine ⟨by decide, by decide, by decide, fun right => ?_⟩
  exact absurd right.size (by decide)

end Size

end ArcdpsHealing.Processor
