import ArcdpsHealing.Processor.ClockShift
import ArcdpsHealing.Processor.PeerCopy
import ArcdpsHealing.Stats.Snapshot

namespace ArcdpsHealing.Stats.AggregatedStats

open Arcdps Lib Processor Settings

section Shift

variable {s : PlayerStats} {d : UInt64} (h : s.Stamped d) (time : UInt64)
  (agents : Std.ExtTreeMap UInt64 HealedAgent) (options : HealWindowOptions) (debugMode : Bool)

include h

theorem lastHeal_shift :
    let x := snapshot s time agents options debugMode
    (x.lastHeal ≠ 0 → Shiftable d x.lastHeal) ∧
      (snapshot (s.shift d) time agents options debugMode).lastHeal = shiftTime d x.lastHeal := by
  simp only [lastHeal, snapshot, PlayerStats.shift, List.getLast?_map, Option.map_map]
  cases last : s.events.getLast? with
  | none => simp [shiftTime]
  | some e =>
    have timed : Shiftable d e.time := h.events e (List.mem_of_getLast? last)
    exact ⟨fun _ => timed, timed.shiftTime_eq.symm⟩

theorem conditionEnd_shift :
    let x := snapshot s time agents options debugMode
    (x.conditionEnd ≠ 0 → Shiftable d x.conditionEnd) ∧
      (snapshot (s.shift d) time agents options debugMode).conditionEnd =
        shiftTime d x.conditionEnd := by
  intro x
  let y := snapshot (s.shift d) time agents options debugMode
  obtain ⟨timed, shifted⟩ := lastHeal_shift h time agents options debugMode
  change x.lastHeal ≠ 0 → Shiftable d x.lastHeal at timed
  change y.lastHeal = shiftTime d x.lastHeal at shifted
  change _ ∧ y.conditionEnd = _
  by_cases exit : options.combatEndConditionChoice = CombatEndCondition.combatExit
  · have own : x.conditionEnd = s.exitedCombatTime := if_pos exit
    have other : y.conditionEnd = shiftTime d s.exitedCombatTime := if_pos exit
    rw [own, other]
    exact ⟨h.exited, rfl⟩
  by_cases heal : options.combatEndConditionChoice = CombatEndCondition.lastHealEvent
  · have own : x.conditionEnd = x.lastHeal := (if_neg exit).trans (if_pos heal)
    have other : y.conditionEnd = y.lastHeal := (if_neg exit).trans (if_pos heal)
    rw [own, other]
    exact ⟨timed, shifted⟩
  by_cases damage : options.combatEndConditionChoice = CombatEndCondition.lastDamageEvent
  · have own : x.conditionEnd = s.lastDamageEvent :=
      (if_neg exit).trans ((if_neg heal).trans (if_pos damage))
    have other : y.conditionEnd = shiftTime d s.lastDamageEvent :=
      (if_neg exit).trans ((if_neg heal).trans (if_pos damage))
    rw [own, other]
    exact ⟨h.last, rfl⟩
  have own : x.conditionEnd = max s.lastDamageEvent x.lastHeal :=
    x.conditionEnd_eq_max exit heal damage
  have other : y.conditionEnd = max (shiftTime d s.lastDamageEvent) y.lastHeal :=
    y.conditionEnd_eq_max exit heal damage
  rw [own, other, shifted]
  by_cases none : x.lastHeal = 0
  · rw [none, max_zero]
    exact ⟨h.last, max_zero _⟩
  · have known := timed none
    rw [known.shiftTime_eq]
    exact ⟨fun _ => known.max_of h.last, (known.shiftTime_max h.last).symm⟩

theorem lastTime_shift :
    let x := snapshot s time agents options debugMode
    let y := snapshot (s.shift d) time agents options debugMode
    (s.IsOutOfCombat ∨ x.conditionEnd ≠ 0 →
      Shiftable d x.lastTime ∧ y.lastTime = x.lastTime + d) ∧
    (¬ (s.IsOutOfCombat ∨ x.conditionEnd ≠ 0) → x.lastTime = time ∧ y.lastTime = time) := by
  -- Where the end of combat is a time of the peer it is shifted as well.
  intro x y
  obtain ⟨timed, shifted⟩ := conditionEnd_shift h time agents options debugMode
  change x.conditionEnd ≠ 0 → Shiftable d x.conditionEnd at timed
  change y.conditionEnd = shiftTime d x.conditionEnd at shifted
  by_cases none : x.conditionEnd = 0
  · have own : x.lastTime = x.fallback := if_pos none
    have other : y.lastTime = y.fallback :=
      if_pos (shifted.trans ((shiftTime_eq_zero timed).mpr none))
    rw [own, other]
    by_cases exited : s.exitedCombatTime = 0
    · have inCombat : ¬ (s.IsOutOfCombat ∨ x.conditionEnd ≠ 0) := by
        simp [PlayerStats.IsOutOfCombat, h.entered.nonzero, exited, none]
      have still : shiftTime d s.exitedCombatTime = 0 := (shiftTime_eq_zero h.exited).mpr exited
      exact ⟨fun out => absurd out inCombat,
        fun _ => ⟨if_neg (not_not.mpr exited), if_neg (not_not.mpr still)⟩⟩
    · have left : shiftTime d s.exitedCombatTime ≠ 0 :=
        fun zero => exited ((shiftTime_eq_zero h.exited).mp zero)
      have own : x.fallback = s.exitedCombatTime := if_pos exited
      have other : y.fallback = shiftTime d s.exitedCombatTime := if_pos left
      rw [own, other]
      exact ⟨fun _ => ⟨h.exited exited, (h.exited exited).shiftTime_eq⟩,
        fun inside => absurd (.inl (.inr exited)) inside⟩
  · have own : x.lastTime = x.conditionEnd := if_neg none
    have other : y.lastTime = y.conditionEnd :=
      if_neg fun zero => none ((shiftTime_eq_zero timed).mp (shifted.symm.trans zero))
    rw [own, other, shifted]
    exact ⟨fun _ => ⟨timed none, (timed none).shiftTime_eq⟩,
      fun inside => absurd (.inr none) inside⟩

def HasEnd (x : AggregatedStats) : Prop :=
  let s := x.mySourceData
  let choice := x.myOptions.combatEndConditionChoice
  if choice = CombatEndCondition.combatExit then s.exitedCombatTime ≠ 0
  else if choice = CombatEndCondition.lastHealEvent then x.lastHeal ≠ 0
  else if choice = CombatEndCondition.lastDamageEvent then s.lastDamageEvent ≠ 0
  else s.lastDamageEvent ≠ 0 ∨ x.lastHeal ≠ 0

instance (x : AggregatedStats) : Decidable x.HasEnd :=
  inferInstanceAs (Decidable (ite _ _ (ite _ _ (ite _ _ _))))

omit h in
theorem conditionEnd_ne_zero (x : AggregatedStats) : x.conditionEnd ≠ 0 ↔ x.HasEnd := by
  simp only [HasEnd]
  split
  case isTrue exit => rw [conditionEnd, if_pos exit]
  rename_i exit
  split
  case isTrue heal =>
    rw [conditionEnd, if_neg exit, if_pos heal]
    exact Iff.rfl
  rename_i heal
  split
  case isTrue damage => rw [conditionEnd, if_neg exit, if_neg heal, if_pos damage]
  case isFalse damage =>
    rw [x.conditionEnd_eq_max exit heal damage, ne_eq, max_eq_zero]
    exact not_and_or

def OwnClock (d : UInt64) (x : AggregatedStats) : Prop :=
  x.mySourceData.IsOutOfCombat ∨ x.HasEnd ∨ d = 0 ∨
    x.mySourceData.collectionTime ≤ x.mySourceData.enteredCombatTime

theorem getCombatEnd_shift :
    let x := snapshot s time agents options debugMode
    let y := snapshot (s.shift d) time agents options debugMode
    (x.OwnClock d → Shiftable d x.getCombatEnd) ∧
      (y.getCombatEnd = x.getCombatEnd + d ↔ x.OwnClock d) := by
  intro x y
  obtain ⟨good, bad⟩ := lastTime_shift h time agents options debugMode
  change _ → Shiftable d x.lastTime ∧ y.lastTime = x.lastTime + d at good
  change _ → x.lastTime = time ∧ y.lastTime = time at bad
  have clock : x.OwnClock d ↔
      (s.IsOutOfCombat ∨ x.conditionEnd ≠ 0) ∨ d = 0 ∨ time ≤ s.enteredCombatTime := by
    rw [OwnClock, ← conditionEnd_ne_zero]
    exact or_assoc.symm
  have own : x.getCombatEnd = max x.lastTime s.enteredCombatTime := x.getCombatEnd_eq_max
  have other : y.getCombatEnd = max y.lastTime (s.enteredCombatTime + d) := y.getCombatEnd_eq_max
  rw [clock, own, other]
  by_cases known : s.IsOutOfCombat ∨ x.conditionEnd ≠ 0
  · obtain ⟨timed, shifted⟩ := good known
    rw [shifted, timed.max_add h.entered]
    exact ⟨fun _ => timed.max h.entered, fun _ => .inl known, fun _ => rfl⟩
  · obtain ⟨mine, theirs⟩ := bad known
    rw [mine, theirs, or_iff_right known]
    exact max_add_iff h.entered time

theorem getCombatTime_shift :
    let x := snapshot s time agents options debugMode
    (snapshot (s.shift d) time agents options debugMode).getCombatTime = x.getCombatTime ↔
      x.OwnClock d := by
  intro x
  let y := snapshot (s.shift d) time agents options debugMode
  have ends : y.getCombatEnd = x.getCombatEnd + d ↔ x.OwnClock d :=
    (getCombatEnd_shift h time agents options debugMode).2
  have own : x.getCombatTime = x.getCombatEnd - s.enteredCombatTime := if_neg h.entered.nonzero
  have other : y.getCombatTime = y.getCombatEnd - (s.enteredCombatTime + d) :=
    if_neg h.entered.add_ne_zero
  change y.getCombatTime = _ ↔ _
  rw [own, other, ← ends]
  constructor
  · intro same
    grind
  · intro same
    grind

theorem included_shift (own : (snapshot s time agents options debugMode).OwnClock d) :
    (snapshot (s.shift d) time agents options debugMode).included =
      (snapshot s time agents options debugMode).included.map (HealEvent.shift d) := by
  let x := snapshot s time agents options debugMode
  let y := snapshot (s.shift d) time agents options debugMode
  obtain ⟨timed, ends⟩ := getCombatEnd_shift h time agents options debugMode
  have last : y.getCombatEnd = x.getCombatEnd + d := ends.mpr own
  rw [included_eq, included_eq]
  change ((s.events.map (HealEvent.shift d)).filter (x.Counted ·)).filter
    (·.time ≤ y.getCombatEnd) = ((s.events.filter (x.Counted ·)).filter
    (·.time ≤ x.getCombatEnd)).map (HealEvent.shift d)
  rw [List.filter_map, List.filter_map]
  congr 1
  apply List.filter_congr
  intro e member
  have recorded := h.events e (List.mem_filter.mp member).1
  rw [last]
  exact decide_eq_decide.mpr (recorded.add_le_add (timed own))

theorem getTotal_shift (skills : SkillTable)
    (own : (snapshot s time agents options debugMode).OwnClock d) :
    (snapshot (s.shift d) time agents options debugMode).getTotal skills =
      (snapshot s time agents options debugMode).getTotal skills := by
  rw [getTotal_eq, getTotal_eq, included_shift h time agents options debugMode own, total_map]
  rfl

end Shift

theorem shown_shifted {s s' : PlayerStats} {d : UInt64} (h : s.Shifted d s') (time : UInt64)
    (agents : Std.ExtTreeMap UInt64 HealedAgent) (options : HealWindowOptions) (debugMode : Bool)
    (skills : SkillTable) :
    let x := snapshot s time agents options debugMode
    let y := snapshot s' time agents options debugMode
    (y.getTotal skills = x.getTotal skills ∧ y.getCombatTime = x.getCombatTime) ↔
      x.OwnClock d := by
  intro x y
  cases h with
  | untouched out => exact ⟨fun _ => .inl out, fun _ => ⟨rfl, rfl⟩⟩
  | moved stamped =>
    have times := getCombatTime_shift stamped time agents options debugMode
    exact ⟨fun same => times.mp same.2,
      fun own => ⟨getTotal_shift stamped time agents options debugMode skills own, times.mpr own⟩⟩

/-- A peer's numbers on two clocks, where a receiver that has recorded some of
the combat before has done so on the same clock. -/
theorem clock_shift (c : Enums) (i : UInt16) (u : UInt64) (p p' : EventProcessor)
    (table : p'.agentTable = p.agentTable) (player : p.agentTable.getUniqueId i false = some u)
    (d : UInt64) (start : (p.peerState u).Shifted d (p'.peerState u)) (stream : List CbtEvent)
    (stamped : ∀ e ∈ stream, Stamped c i d e) (time : UInt64)
    (agents : Std.ExtTreeMap UInt64 HealedAgent) (options : HealWindowOptions) (debugMode : Bool)
    (skills : SkillTable) :
    let shown (p : EventProcessor) (stream : List CbtEvent) :=
      snapshot ((stream.foldl (fun p e => p.peerCombat c e i) p).peerState u) time agents options
        debugMode
    let x := shown p stream
    let y := shown p' (stream.map (shiftEvent c d))
    x.OwnClock d →
      y.getTotal skills = x.getTotal skills ∧ y.getCombatTime = x.getCombatTime := by
  intro shown x y own
  exact (shown_shifted (shifted_run table player start stream stamped) time agents options
    debugMode skills).mpr own

def heard (p : EventProcessor) (stream : List CbtEvent) : EventProcessor :=
  stream.foldl (fun p e => p.peerCombat .documented e 5) p

def shownFight (p : EventProcessor) (stream : List CbtEvent) : AggregatedStats :=
  snapshot ((heard p stream).peerState 77) 50 fightTable.agents {} false

def ahead (stream : List CbtEvent) : List CbtEvent := stream.map (shiftEvent .documented 1000)

theorem clock_shift_fight :
    let x := shownFight (heard fightPair.receiver (fightEvents.take 2)) [fightEvent 30 1 0 12]
    let y := shownFight (heard fightPair.receiver (ahead (fightEvents.take 2)))
      (ahead [fightEvent 30 1 0 12])
    y.getTotal {} = x.getTotal {} ∧ y.getCombatTime = x.getCombatTime := by
  have times : ∀ e ∈ fightEvents.take 3, e.time ≠ 0 ∧ e.time.toNat + 1000 < 2 ^ 64 ∧
      e.isStatechange ≠ Enums.documented.exitCombat := by decide
  have stamped (e : CbtEvent) (member : e ∈ fightEvents.take 3) :
      Stamped .documented 5 1000 e := by
    obtain ⟨nonzero, fits, other⟩ := times e member
    exact ⟨⟨nonzero, fits⟩, fun exit => absurd exit other⟩
  have before : ∀ e ∈ fightEvents.take 2, e ∈ fightEvents.take 3 := by decide
  have heal : ∀ e ∈ [fightEvent 30 1 0 12], e ∈ fightEvents.take 3 := by decide
  have start : ((heard fightPair.receiver (fightEvents.take 2)).peerState 77).Shifted 1000
      ((heard fightPair.receiver (ahead (fightEvents.take 2))).peerState 77) :=
    shifted_run rfl fightTable_self (.untouched (by decide)) (fightEvents.take 2)
      fun e member => stamped e (before e member)
  exact clock_shift .documented 5 77 (heard fightPair.receiver (fightEvents.take 2))
    (heard fightPair.receiver (ahead (fightEvents.take 2))) rfl fightTable_self 1000 start
    [fightEvent 30 1 0 12] (fun e member => stamped e (heal e member)) 50 fightTable.agents {}
    false {} (.inr (.inl (by decide)))

/-- Two ways for the clocks to meet: a heal is compared with damage that the same
receiver has recorded before, or before any damage combat ends at a time of the
receiver. -/
theorem clock_shift_meets :
    let p := heard fightPair.receiver [fightEvent 10 0 1 0, fightEvent 20 1 0 (-7)]
    let heal := [fightEvent 15 1 0 12]
    let fresh := fightPair.receiver
    let begun := [fightEvent 10 0 1 0, fightEvent 30 1 0 12]
    ((shownFight p heal).HasEnd ∧ (shownFight p (ahead heal)).HasEnd ∧
      (shownFight p heal).getTotal {} = ⟨12, 1, 0⟩ ∧
      (shownFight p (ahead heal)).getTotal {} = 0) ∧
    ¬ (fresh.peerStates.contains 77) ∧
      (shownFight fresh begun).getTotal {} = ⟨12, 1, 0⟩ ∧
      (shownFight fresh begun).getCombatTime = 40 ∧
      (shownFight fresh (ahead begun)).getTotal {} = 0 ∧
      (shownFight fresh (ahead begun)).getCombatTime = 0 := by
  decide

end ArcdpsHealing.Stats.AggregatedStats
