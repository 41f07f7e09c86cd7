import ArcdpsHealing.Processor.BudgetMode
import ArcdpsHealing.Processor.PeerCopy
import ArcdpsHealing.Stats.Snapshot

namespace ArcdpsHealing.Stats

open Arcdps Lib Processor Settings

namespace AggregatedStats

variable (x : AggregatedStats)

def countedHeal : UInt64 :=
  if x.myOptions.combatEndConditionChoice = CombatEndCondition.lastDamageEvent then 0
  else x.lastHeal

/-- It makes no difference to the total whether the last damage known is this one:
either it is, or the combat end does not go by damage, or no heal that counts falls
between the two ends. -/
def Harmless (known : UInt64) : Prop :=
  let s := x.mySourceData
  let choice := x.myOptions.combatEndConditionChoice
  known = s.lastDamageEvent ∨ choice = CombatEndCondition.combatExit ∨
    choice = CombatEndCondition.lastHealEvent ∨
    ∀ e ∈ s.events, x.Counted e → s.enteredCombatTime < e.time →
      if known = 0 ∧ x.countedHeal = 0 then e.time ≤ s.lastDamageEvent ↔ e.time ≤ x.fallback
      else e.time ≤ s.lastDamageEvent → e.time ≤ known ∨ e.time ≤ x.countedHeal

instance (known : UInt64) : Decidable (x.Harmless known) :=
  inferInstanceAs (Decidable (_ ∨ _ ∨ _ ∨ ∀ e ∈ x.mySourceData.events, _ → _ → ite _ _ _))

section Total

variable {off on : PlayerStats} (spares : Spares off on) (time : UInt64)
  (agents : Std.ExtTreeMap UInt64 HealedAgent) (options : HealWindowOptions) (debugMode : Bool)

include spares

theorem conditionEnd_byDamage
    (exit : options.combatEndConditionChoice ≠ CombatEndCondition.combatExit)
    (heal : options.combatEndConditionChoice ≠ CombatEndCondition.lastHealEvent) :
    let x := snapshot off time agents options debugMode
    x.conditionEnd = max off.lastDamageEvent x.countedHeal ∧
      (snapshot on time agents options debugMode).conditionEnd =
        max on.lastDamageEvent x.countedHeal := by
  intro x
  let y := snapshot on time agents options debugMode
  have same : y.lastHeal = x.lastHeal := by
    exact congrArg (fun events => (events.getLast?.map HealEvent.time).getD 0) spares.events
  unfold countedHeal
  split
  case isTrue damage =>
    rw [max_zero, max_zero]
    exact ⟨(if_neg exit).trans ((if_neg heal).trans (if_pos damage)),
      (if_neg exit).trans ((if_neg heal).trans (if_pos damage))⟩
  case isFalse damage =>
    refine ⟨x.conditionEnd_eq_max exit heal damage, ?_⟩
    rw [← same]
    exact y.conditionEnd_eq_max exit heal damage

theorem cut_spared {t : UInt64} :
    let x := snapshot off time agents options debugMode
    (t ≤ (snapshot on time agents options debugMode).getCombatEnd ↔ t ≤ x.getCombatEnd) ↔
      on.lastDamageEvent = off.lastDamageEvent ∨
      options.combatEndConditionChoice = CombatEndCondition.combatExit ∨
      options.combatEndConditionChoice = CombatEndCondition.lastHealEvent ∨
      (off.enteredCombatTime < t →
        if on.lastDamageEvent = 0 ∧ x.countedHeal = 0 then t ≤ off.lastDamageEvent ↔ t ≤ x.fallback
        else t ≤ off.lastDamageEvent → t ≤ on.lastDamageEvent ∨ t ≤ x.countedHeal) := by
  intro x
  let y := snapshot on time agents options debugMode
  have entered : y.mySourceData.enteredCombatTime = off.enteredCombatTime :=
    spares.enteredCombatTime
  have fallback : y.fallback = x.fallback := by
    change (snapshot on time agents options debugMode).fallback = _
    rw [spares.same]
    rfl
  have sameEnd (same : y.conditionEnd = x.conditionEnd) : y.lastTime = x.lastTime := by
    rw [lastTime, lastTime, same, fallback]
  change (t ≤ y.getCombatEnd ↔ t ≤ x.getCombatEnd) ↔ _
  rw [le_getCombatEnd, le_getCombatEnd, entered]
  change (t ≤ y.lastTime ∨ t ≤ off.enteredCombatTime ↔
    t ≤ x.lastTime ∨ t ≤ off.enteredCombatTime) ↔ _
  by_cases same : on.lastDamageEvent = off.lastDamageEvent
  · have whole : on = off := by rw [spares.same, same]
    have whole : y = x := congrArg (snapshot · time agents options debugMode) whole
    simp [whole, same]
  by_cases exit : options.combatEndConditionChoice = CombatEndCondition.combatExit
  · have none : y.conditionEnd = x.conditionEnd := by
      refine (if_pos exit).trans (Eq.trans ?_ (if_pos exit).symm)
      exact spares.exitedCombatTime
    simp [sameEnd none, exit]
  by_cases heal : options.combatEndConditionChoice = CombatEndCondition.lastHealEvent
  · have none : y.conditionEnd = x.conditionEnd := by
      refine ((if_neg exit).trans (if_pos heal)).trans
        (Eq.trans ?_ ((if_neg exit).trans (if_pos heal)).symm)
      exact congrArg (fun events => (events.getLast?.map HealEvent.time).getD 0) spares.events
    simp [sameEnd none, heal]
  rw [or_iff_right same, or_iff_right exit, or_iff_right heal]
  by_cases before : t ≤ off.enteredCombatTime
  · simp [before, UInt64.not_lt.mpr before]
  rw [or_iff_left before, or_iff_left before, forall_prop_of_true (UInt64.not_le.mp before)]
  obtain ⟨full, spared⟩ := conditionEnd_byDamage spares time agents options debugMode exit heal
  have damaged : x.conditionEnd ≠ 0 := by
    intro zero
    obtain ⟨none, -⟩ := max_eq_zero.mp (full.symm.trans zero)
    have := spares.behind
    rw [none, UInt64.le_zero_iff] at this
    exact same (this.trans none.symm)
  rw [lastTime, lastTime, if_neg damaged, fallback, full, le_max_iff_or]
  change (t ≤ ite (y.conditionEnd = 0) x.fallback y.conditionEnd ↔ _) ↔ _
  have unknown : y.conditionEnd = 0 ↔ on.lastDamageEvent = 0 ∧ x.countedHeal = 0 := by
    rw [spared]
    exact max_eq_zero
  by_cases none : on.lastDamageEvent = 0 ∧ x.countedHeal = 0
  · have late : ¬ t ≤ x.countedHeal := by
      rw [none.2]
      exact fun early => before (UInt64.le_trans early UInt64.zero_le)
    rw [if_pos (unknown.mpr none), if_pos none, or_iff_left late]
    exact iff_comm
  · have later (early : t ≤ on.lastDamageEvent) : t ≤ off.lastDamageEvent :=
      UInt64.le_trans early spares.behind
    rw [if_neg (mt unknown.mp none), if_neg none, spared, le_max_iff_or]
    exact ⟨fun same early => same.mpr (.inl early), fun all => ⟨Or.imp_left later, Or.rec all .inr⟩⟩

theorem harmless_iff :
    let x := snapshot off time agents options debugMode
    x.Harmless on.lastDamageEvent ↔ ∀ e ∈ off.events.filter (x.Counted ·),
      (e.time ≤ (snapshot on time agents options debugMode).getCombatEnd ↔
        e.time ≤ x.getCombatEnd) := by
  intro x
  have each (e : HealEvent) := cut_spared spares time agents options debugMode (t := e.time)
  simp only [List.mem_filter, decide_eq_true_eq, and_imp]
  rw [forall₂_congr fun e _ => imp_congr_right fun _ => each e]
  unfold Harmless
  constructor
  · rintro (known | exit | heal | all) e member counted
    · exact .inl known
    · exact .inr (.inl exit)
    · exact .inr (.inr (.inl heal))
    · exact .inr (.inr (.inr (all e member counted)))
  · intro all
    refine or_iff_not_imp_left.mpr fun known => or_iff_not_imp_left.mpr fun exit =>
      or_iff_not_imp_left.mpr fun heal e member counted => ?_
    exact (((all e member counted).resolve_left known).resolve_left exit).resolve_left heal

theorem getTotal_spared (skills : SkillTable) :
    let x := snapshot off time agents options debugMode
    let y := snapshot on time agents options debugMode
    (x.Harmless on.lastDamageEvent → y.getTotal skills = x.getTotal skills) ∧
      (off.events.length < 2 ^ 63 → y.getTotal skills = x.getTotal skills →
        x.Harmless on.lastDamageEvent) := by
  intro x y
  have own : x.getTotal skills = total (x.weight skills)
      ((off.events.filter (x.Counted ·)).filter (·.time ≤ x.getCombatEnd)) := by
    rw [getTotal_eq, included_eq]
    rfl
  have copy : y.getTotal skills = total (x.weight skills)
      ((off.events.filter (x.Counted ·)).filter (·.time ≤ y.getCombatEnd)) := by
    obtain ⟨known, rfl⟩ : ∃ known, on = { off with lastDamageEvent := known } := ⟨_, spares.same⟩
    rw [getTotal_eq, included_eq]
    rfl
  have harmless : x.Harmless on.lastDamageEvent ↔ ∀ e ∈ off.events.filter (x.Counted ·),
      (e.time ≤ y.getCombatEnd ↔ e.time ≤ x.getCombatEnd) :=
    harmless_iff spares time agents options debugMode
  rw [harmless, own, copy]
  constructor
  · intro same
    congr 1
    apply List.filter_congr
    intro e member
    exact decide_eq_decide.mpr (same e member)
  · intro bounded
    have few := lt_of_le_of_lt (List.length_filter_le (x.Counted ·) off.events) bounded
    exact (x.total_weight_cut skills few _ _).mp

end Total

def fightTotal (budgetMode : Bool) (run : List LocalCallback) : Tally :=
  (snapshot ((run.foldl (deliver .documented budgetMode 5) fightPair).receiver.peerState 77) 50
    fightTable.agents {} false).getTotal {}

end AggregatedStats

end ArcdpsHealing.Stats
