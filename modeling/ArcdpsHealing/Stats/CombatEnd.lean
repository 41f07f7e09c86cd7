import ArcdpsHealing.Processor.PeerCopy
import ArcdpsHealing.Processor.Sessions
import ArcdpsHealing.Stats.Snapshot
import Mathlib.Data.List.Pairwise

namespace ArcdpsHealing.Processor.PlayerStats.Combat

open Lib Settings

variable (f : Combat)

def healTimes : List UInt64 := f.window.filterMap Call.healTime

def damageTimes : List UInt64 :=
  f.window.filterMap Call.damageTime ++ (f.exit.map (·.2)).toList

def marks (choice : Enumeration) : List UInt64 :=
  f.healTimes.getLast?.toList ++
    if choice = CombatEndCondition.lastHealEvent then [] else f.damageTimes

/-- No heal is later than the enter and every mark. Where no mark has a time, the
exit or the collection stands for one. -/
def HealsInTime (choice : Enumeration) (collectionTime : UInt64) : Prop :=
  ∀ t ∈ f.healTimes, t ≤ f.time ∨ (∃ m ∈ f.marks choice, t ≤ m) ∨
    (∀ m ∈ f.marks choice, m = 0) ∧ t ≤ (f.exit.map (·.1)).getD collectionTime

theorem events_time (window : List Call) :
    (window.filterMap Call.event).map HealEvent.time = window.filterMap Call.healTime := by
  rw [List.map_filterMap]
  exact congrArg (window.filterMap ·) (funext Call.event_time)

theorem healsInTime_of_ordered (ordered : f.healTimes.Pairwise (· ≤ ·)) {choice : Enumeration}
    {collectionTime : UInt64} :
    f.HealsInTime choice collectionTime := by
  intro t member
  have nonempty : f.healTimes ≠ [] := List.ne_nil_of_mem member
  have last : f.healTimes.getLast nonempty ∈ f.marks choice := by
    simp [marks, List.getLast?_eq_some_getLast nonempty]
  exact .inr (.inl ⟨_, last, ordered.rel_getLast member⟩)

end ArcdpsHealing.Processor.PlayerStats.Combat

namespace ArcdpsHealing.Stats

open Arcdps Lib Processor Settings

namespace AggregatedStats

variable (x : AggregatedStats)

def lastDamage : UInt64 :=
  if x.myOptions.combatEndConditionChoice = CombatEndCondition.lastHealEvent then 0
  else x.mySourceData.lastDamageEvent

theorem conditionEnd_byHeal
    (choice : CombatEndCondition.ByHeal x.myOptions.combatEndConditionChoice) :
    x.conditionEnd = max x.lastDamage x.lastHeal := by
  rcases choice with heal | both
  · have exit : ¬ x.myOptions.combatEndConditionChoice =
        CombatEndCondition.combatExit := by
      rw [heal]
      decide
    rw [lastDamage, if_pos heal, zero_max]
    exact (if_neg exit).trans (if_pos heal)
  · have heal : ¬ x.myOptions.combatEndConditionChoice =
        CombatEndCondition.lastHealEvent := by
      rw [both]
      decide
    rw [lastDamage, if_neg heal]
    refine x.conditionEnd_eq_max ?_ heal ?_
    · rw [both]
      decide
    · rw [both]
      decide

end AggregatedStats

section Combat

variable {f : PlayerStats.Combat} (kept : f.stats.events ≠ []) (collectionTime : UInt64)
  (agents : Std.ExtTreeMap UInt64 HealedAgent) (options : HealWindowOptions) (debugMode : Bool)

include kept

theorem stats_of_events : f.stats =
    { enteredCombatTime := f.time
      exitedCombatTime := (f.exit.map (·.1)).getD 0
      lastDamageEvent := f.damageTimes.foldl max 0
      subGroup := f.subGroup
      events := f.window.filterMap PlayerStats.Call.event } := by
  unfold PlayerStats.Combat.stats at kept ⊢
  split
  · rename_i reset
    rw [if_pos reset] at kept
    exact absurd rfl kept
  · rfl

theorem times_of_events : f.stats.events.map HealEvent.time = f.healTimes := by
  rw [stats_of_events kept]
  exact PlayerStats.Combat.events_time f.window

theorem lastHeal_of_events : (snapshot f.stats collectionTime agents options debugMode).lastHeal =
    f.healTimes.getLast?.getD 0 := by
  rw [AggregatedStats.lastHeal, ← times_of_events kept, List.getLast?_map]
  rfl

theorem fallback_of_events (accepted : ∀ e ∈ f.exit, f.time < e.1) :
    (snapshot f.stats collectionTime agents options debugMode).fallback =
      (f.exit.map (·.1)).getD collectionTime := by
  rw [stats_of_events kept]
  change (if (f.exit.map (·.1)).getD 0 ≠ 0 then (f.exit.map (·.1)).getD 0 else collectionTime) = _
  cases exit : f.exit with
  | none => rfl
  | some e =>
    have late : e.1 ≠ 0 := by
      intro zero
      have := accepted e exit
      rw [zero] at this
      exact absurd UInt64.zero_le (UInt64.not_le.mpr this)
    exact if_pos late

section Marks

variable (choice : CombatEndCondition.ByHeal options.combatEndConditionChoice)

include choice

theorem le_conditionEnd {t : UInt64} :
    t ≤ (snapshot f.stats collectionTime agents options debugMode).conditionEnd ↔
      t = 0 ∨ ∃ m ∈ f.marks options.combatEndConditionChoice, t ≤ m := by
  have heal : t ≤ f.healTimes.getLast?.getD 0 ↔ t = 0 ∨ ∃ m ∈ f.healTimes.getLast?, t ≤ m := by
    cases f.healTimes.getLast? <;> grind [UInt64.le_zero_iff]
  have damage : t ≤ (snapshot f.stats collectionTime agents options debugMode).lastDamage ↔
      t = 0 ∨ ∃ m ∈ if options.combatEndConditionChoice = CombatEndCondition.lastHealEvent then []
        else f.damageTimes, t ≤ m := by
    rw [stats_of_events kept]
    unfold AggregatedStats.lastDamage snapshot
    split
    · simp
    · rw [le_foldl_max]
      simp
  rw [AggregatedStats.conditionEnd_byHeal _ choice, lastHeal_of_events kept, le_max_iff_or, damage,
    heal, PlayerStats.Combat.marks]
  grind

theorem conditionEnd_eq_zero :
    (snapshot f.stats collectionTime agents options debugMode).conditionEnd = 0 ↔
      ∀ m ∈ f.marks options.combatEndConditionChoice, m = 0 := by
  have le (t : UInt64) : t ≤ _ ↔ _ :=
    le_conditionEnd kept collectionTime agents options debugMode choice
  constructor
  · intro zero m member
    have := (le m).mpr (.inr ⟨m, member, UInt64.le_refl m⟩)
    rwa [zero, UInt64.le_zero_iff] at this
  · intro none
    rcases (le _).mp (UInt64.le_refl _) with zero | ⟨m, member, early⟩
    · exact zero
    · rwa [none m member, UInt64.le_zero_iff] at early

theorem heals_in_time (accepted : ∀ e ∈ f.exit, f.time < e.1) :
    (∀ e ∈ f.stats.events, ¬ e.time >
        (snapshot f.stats collectionTime agents options debugMode).getCombatEnd) ↔
      f.HealsInTime options.combatEndConditionChoice collectionTime := by
  have entered : (snapshot f.stats collectionTime agents options
      debugMode).mySourceData.enteredCombatTime = f.time := by
    rw [stats_of_events kept]
    rfl
  have unmarked := conditionEnd_eq_zero kept collectionTime agents options debugMode choice
  unfold PlayerStats.Combat.HealsInTime
  rw [← times_of_events kept, List.forall_mem_map]
  refine forall₂_congr fun e _ => ?_
  rw [gt_iff_lt, UInt64.not_lt, AggregatedStats.le_getCombatEnd, AggregatedStats.lastTime, entered,
    or_comm]
  refine or_congr_right ?_
  by_cases none : ∀ m ∈ f.marks options.combatEndConditionChoice, m = 0
  · rw [if_pos (unmarked.mpr none), fallback_of_events kept _ _ _ _ accepted, and_iff_right none]
    refine (or_iff_right_of_imp ?_).symm
    rintro ⟨m, member, early⟩
    rw [none m member, UInt64.le_zero_iff] at early
    rw [early]
    exact UInt64.zero_le
  · have unused : ¬ ((∀ m ∈ f.marks options.combatEndConditionChoice, m = 0) ∧
        e.time ≤ (f.exit.map (·.1)).getD collectionTime) := fun all => none all.1
    rw [if_neg (mt unmarked.mp none), le_conditionEnd kept _ _ _ _ choice, or_iff_left unused]
    obtain ⟨m, member, -⟩ := by simpa using none
    refine or_iff_right_of_imp fun zero => ⟨m, member, ?_⟩
    rw [zero]
    exact UInt64.zero_le

end Marks

end Combat

/-- No heal of a combat is cut off just when the heals come in time. -/
theorem heals_count_iff (calls : List PlayerStats.Call) (collectionTime : UInt64)
    (agents : Std.ExtTreeMap UInt64 HealedAgent) (options : HealWindowOptions) (debugMode : Bool)
    (choice : CombatEndCondition.ByHeal options.combatEndConditionChoice)
    (timed : ∃ e ∈ (PlayerStats.after calls).events, e.time ≠ 0) :
    (∃ f : PlayerStats.Combat, f.LastOf calls ∧ f.time ≠ 0) ∧
      ∀ f : PlayerStats.Combat, f.LastOf calls → f.time ≠ 0 →
        ((∀ e ∈ (PlayerStats.after calls).events, ¬ e.time >
            (snapshot (PlayerStats.after calls) collectionTime agents options
              debugMode).getCombatEnd) ↔
          f.HealsInTime options.combatEndConditionChoice collectionTime) := by
  obtain ⟨e, member, -⟩ := timed
  constructor
  · rcases PlayerStats.Combat.lastOf_or_empty calls with ⟨-, empty⟩ | exists_
    · rw [empty] at member
      cases member
    · exact exists_
  · intro f lastOf proper
    rw [PlayerStats.Combat.after_eq_stats lastOf proper] at member ⊢
    exact heals_in_time (List.ne_nil_of_mem member) collectionTime agents options debugMode choice
      lastOf.accepted

section Heals

def twoHeals (first second : UInt64) : List PlayerStats.Call :=
  [.enteredCombat 10 1, .damageEvent 15, .healingEvent (fightEvent first 1 0 12) 7,
    .barrierGenerationEvent (fightEvent second 1 0 12) 8, .exitedCombat 60 15]

def twoHealsCombat (first second : UInt64) : PlayerStats.Combat :=
  ⟨[], 10, 1, [.damageEvent 15, .healingEvent (fightEvent first 1 0 12) 7,
    .barrierGenerationEvent (fightEvent second 1 0 12) 8], some (60, 15), []⟩

theorem twoHeals_lastOf (first second : UInt64) :
    (twoHealsCombat first second).LastOf (twoHeals first second) where
  split := rfl
  found := .inl rfl
  early t last member := by simp [twoHealsCombat] at member
  accepted e exit := by
    cases exit
    exact show (10 : UInt64) < 60 by decide
  still impossible := by cases impossible
  last t g member := by cases member

theorem heals_count_ordered :
    let s := PlayerStats.after (twoHeals 20 30)
    (∀ e ∈ s.events, ¬ e.time > (snapshot s 80 ∅
      { combatEndConditionChoice := CombatEndCondition.lastHealEvent } false).getCombatEnd) ∧
    ∀ e ∈ s.events, ¬ e.time > (snapshot s 80 ∅
      { combatEndConditionChoice := CombatEndCondition.lastDamageOrHealEvent }
      false).getCombatEnd :=
  have inTime (choice : Enumeration) : (twoHealsCombat 20 30).HealsInTime choice 80 :=
    (twoHealsCombat 20 30).healsInTime_of_ordered (by decide)
  ⟨((heals_count_iff (twoHeals 20 30) 80 ∅ _ false (.inl rfl) (by decide)).2 _
      (twoHeals_lastOf 20 30) (by decide)).mpr (inTime _),
    ((heals_count_iff (twoHeals 20 30) 80 ∅ _ false (.inr rfl) (by decide)).2 _
      (twoHeals_lastOf 20 30) (by decide)).mpr (inTime _)⟩

/-- A heal that arrives late, and one before it that is cut off. -/
theorem heals_count_unordered :
    let s := PlayerStats.after (twoHeals 30 20)
    let x := snapshot s 80 ∅ { combatEndConditionChoice := CombatEndCondition.lastHealEvent } false
    s.events.map HealEvent.time = [30, 20] ∧ x.getCombatEnd = 20 := by
  decide

end Heals

end ArcdpsHealing.Stats
