import ArcdpsHealing.Lib.Word
import ArcdpsHealing.Stats.Conservation

/-! The total of a peer as a function of the events and the end of combat. -/

namespace ArcdpsHealing.Stats

open Arcdps Lib Processor Settings

/-- `GetState` for one player, in a window with some options. -/
def snapshot (stats : PlayerStats) (collectionTime : UInt64)
    (agents : Std.ExtTreeMap UInt64 HealedAgent) (options : HealWindowOptions) (debugMode : Bool) :
    AggregatedStats where
  mySourceData := { stats with collectionTime := collectionTime, agents := agents }
  myOptions := options
  myDebugMode := debugMode

namespace AggregatedStats

variable (x : AggregatedStats) (skills : SkillTable)

def lastHeal : UInt64 := (x.mySourceData.events.getLast?.map HealEvent.time).getD 0

def fallback : UInt64 :=
  if x.mySourceData.exitedCombatTime ≠ 0 then x.mySourceData.exitedCombatTime
  else x.mySourceData.collectionTime

def lastTime : UInt64 := if x.conditionEnd = 0 then x.fallback else x.conditionEnd

theorem getCombatEnd_eq_max :
    x.getCombatEnd = max x.lastTime x.mySourceData.enteredCombatTime := by
  change (if x.lastTime < x.mySourceData.enteredCombatTime then x.mySourceData.enteredCombatTime
    else x.lastTime) = _
  by_cases early : x.lastTime < x.mySourceData.enteredCombatTime
  · rw [if_pos early, max_eq_of_le (UInt64.le_of_lt early)]
  · rw [if_neg early, max_eq_of_ge (UInt64.not_lt.mp early)]

theorem le_getCombatEnd {time : UInt64} : time ≤ x.getCombatEnd ↔
    time ≤ x.lastTime ∨ time ≤ x.mySourceData.enteredCombatTime := by
  rw [getCombatEnd_eq_max, le_max_iff_or]

theorem conditionEnd_eq_max
    (exit : x.myOptions.combatEndConditionChoice ≠ CombatEndCondition.combatExit)
    (heal : x.myOptions.combatEndConditionChoice ≠ CombatEndCondition.lastHealEvent)
    (damage : x.myOptions.combatEndConditionChoice ≠ CombatEndCondition.lastDamageEvent) :
    x.conditionEnd = max x.mySourceData.lastDamageEvent x.lastHeal := by
  simp only [conditionEnd, lastHeal, if_neg exit, if_neg heal, if_neg damage]
  cases x.mySourceData.events.getLast? with
  | none => exact (max_zero _).symm
  | some e => rfl

def Counted (e : HealEvent) : Prop :=
  ¬ (e.isAgainstDowned = true ∧ x.myOptions.excludeAgainstDowned = true) ∧
    ¬ (e.isAgainstDowned = false ∧ x.myOptions.excludeAgainstNonDowned = true) ∧
    ¬ (e.isBarrierGeneration = true ∧ x.myOptions.excludeBarrierGeneration = true) ∧
    ¬ (e.isBarrierGeneration = false ∧ x.myOptions.excludeHealing = true) ∧
    (x.getIncludedSkills = [] ∨ e.skillId ∈ x.getIncludedSkills) ∧ x.filter e.agentId = false

instance (e : HealEvent) : Decidable (x.Counted e) := inferInstanceAs (Decidable (_ ∧ _))

theorem passes_and_shown (e : HealEvent) :
    x.Passes e ∧ x.filter e.agentId = false ↔ e.time ≤ x.getCombatEnd ∧ x.Counted e := by
  unfold Passes Counted
  tauto

theorem included_eq : x.included =
    (x.mySourceData.events.filter (x.Counted ·)).filter (·.time ≤ x.getCombatEnd) := by
  unfold included passing
  rw [List.filter_filter, List.filter_filter]
  apply List.filter_congr
  intro e _
  rw [Bool.eq_iff_iff]
  simp only [Bool.and_eq_true, Bool.not_eq_true', decide_eq_true_eq]
  rw [and_comm, passes_and_shown]

def weight (e : HealEvent) : Tally :=
  tally e + if x.myDebugMode = true ∧ skills.isSkillIndirectHealing e.skillId = true then tally e
    else 0

theorem getTotal_eq : x.getTotal skills = total (x.weight skills) x.included := by
  unfold getTotal
  rw [total_getSkills, skillEvents_none]
  generalize x.included = events
  induction events with
  | nil =>
    simp [indirect]
  | cons e events ih =>
    rw [total_cons, total_cons, ← ih]
    cases debug : x.myDebugMode with
    | false => simp [weight, debug]
    | true =>
      cases i : skills.isSkillIndirectHealing e.skillId with
      | false => simp [weight, debug, indirect, i, add_assoc]
      | true =>
        simp only [weight, debug, indirect, i, List.filter_cons, if_true, total_cons, and_self]
        rw [add_add_add_comm]

theorem total_weight_eq_zero {events : List HealEvent} (bounded : events.length < 2 ^ 63) :
    total (x.weight skills) events = 0 ↔ events = [] := by
  have hits : ∃ n : Nat, (total (x.weight skills) events).hits = UInt64.ofNat n ∧
      events.length ≤ n ∧ n ≤ 2 * events.length := by
    clear bounded
    induction events with
    | nil => exact ⟨0, rfl, Nat.le_refl 0, Nat.le_refl 0⟩
    | cons e events ih =>
      obtain ⟨n, value, low, high⟩ := ih
      by_cases twice : x.myDebugMode = true ∧ skills.isSkillIndirectHealing e.skillId = true
      · refine ⟨n + 2, ?_, by simp; omega, by simp; omega⟩
        rw [total_cons, Tally.hits_add, value, weight, if_pos twice, UInt64.ofNat_add, add_comm]
        rfl
      · refine ⟨n + 1, ?_, by simp; omega, by simp; omega⟩
        rw [total_cons, Tally.hits_add, value, weight, if_neg twice, UInt64.ofNat_add, add_comm]
        rfl
  constructor
  · intro zero
    obtain ⟨n, value, low, high⟩ := hits
    rw [zero] at value
    have none : n % 2 ^ 64 = 0 := by
      have := congrArg UInt64.toNat value
      rw [UInt64.toNat_ofNat'] at this
      exact this.symm
    rw [Nat.mod_eq_of_lt (by omega)] at none
    exact List.eq_nil_of_length_eq_zero (by omega)
  · rintro rfl
    rfl

theorem total_weight_filter {events : List HealEvent} (bounded : events.length < 2 ^ 63)
    {P Q : HealEvent → Bool} (nested : ∀ e ∈ events, P e = true → Q e = true) :
    total (x.weight skills) (events.filter P) = total (x.weight skills) (events.filter Q) ↔
      ∀ e ∈ events, Q e = true → P e = true := by
  have inner : (events.filter Q).filter P = events.filter P := by
    rw [List.filter_filter]
    apply List.filter_congr
    intro e member
    cases p : P e with
    | false => rfl
    | true => simp [nested e member p]
  have split := total_filter_add (x.weight skills) P (events.filter Q)
  rw [inner] at split
  have bounded : ((events.filter Q).filter fun e => !P e).length < 2 ^ 63 :=
    lt_of_le_of_lt ((List.length_filter_le _ _).trans (List.length_filter_le _ _)) bounded
  rw [← split, eq_comm, Tally.add_eq_left, total_weight_eq_zero x skills bounded,
    List.filter_eq_nil_iff]
  simp

theorem total_weight_cut {events : List HealEvent} (bounded : events.length < 2 ^ 63)
    (last last' : UInt64) :
    total (x.weight skills) (events.filter (·.time ≤ last)) =
        total (x.weight skills) (events.filter (·.time ≤ last')) ↔
      ∀ e ∈ events, (e.time ≤ last ↔ e.time ≤ last') := by
  rcases UInt64.le_total last last' with order | order
  · rw [total_weight_filter x skills bounded]
    · simp only [decide_eq_true_eq]
      exact forall₂_congr fun e _ =>
        ⟨fun h => ⟨fun early => UInt64.le_trans early order, h⟩, fun h => h.2⟩
    · simp only [decide_eq_true_eq]
      exact fun e _ early => UInt64.le_trans early order
  · rw [eq_comm, total_weight_filter x skills bounded]
    · simp only [decide_eq_true_eq]
      exact forall₂_congr fun e _ =>
        ⟨fun h => ⟨h, fun early => UInt64.le_trans early order⟩, fun h => h.1⟩
    · simp only [decide_eq_true_eq]
      exact fun e _ early => UInt64.le_trans early order

end AggregatedStats

end ArcdpsHealing.Stats
