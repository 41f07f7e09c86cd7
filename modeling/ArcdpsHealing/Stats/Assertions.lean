import ArcdpsHealing.Settings.Options
import ArcdpsHealing.Stats.Queries

namespace ArcdpsHealing.Stats

open Arcdps Lib Processor Settings JsonType

inductive Assertion
  | sortOrderChoice
  | dataSourceChoice
  | combatEndCondition
  | unknownSortOrder
  deriving DecidableEq

def assert (a : Assertion) (holds : Bool) : Except Assertion Unit :=
  if holds = true then .ok () else .error a

@[simp] theorem assert_eq_ok {a : Assertion} {holds : Bool} :
    assert a holds = .ok () ↔ holds = true := by
  unfold assert
  cases holds <;> simp

namespace AggregatedStats

/-- The constructor. -/
def construct (data : HealingStats) (options : HealWindowOptions) (debugMode : Bool) :
    Except Assertion AggregatedStats := do
  assert .sortOrderChoice (options.sortOrderChoice < SortOrder.max)
  assert .dataSourceChoice (options.dataSourceChoice < DataSource.max)
  return ⟨data, options, debugMode⟩

variable (x : AggregatedStats)

/-- What `GetCombatEnd` asserts. -/
def assertCombatEnd : Except Assertion Unit :=
  let endCondition := x.myOptions.combatEndConditionChoice
  if endCondition = CombatEndCondition.combatExit then .ok ()
  else if endCondition = CombatEndCondition.lastHealEvent then .ok ()
  else if endCondition = CombatEndCondition.lastDamageEvent then .ok ()
  else assert .combatEndCondition (endCondition = CombatEndCondition.lastDamageOrHealEvent)

/-- The default case of `Sort`. -/
def assertSort : Except Assertion Unit :=
  let sortOrder := x.myOptions.sortOrderChoice
  if sortOrder = SortOrder.ascendingAlphabetical then .ok ()
  else if sortOrder = SortOrder.descendingAlphabetical then .ok ()
  else if sortOrder = SortOrder.ascendingTotalOutgoingSize then .ok ()
  else if sortOrder = SortOrder.descendingTotalOutgoingSize then .ok ()
  else if sortOrder = SortOrder.ascendingHealSize then .ok ()
  else if sortOrder = SortOrder.descendingHealSize then .ok ()
  else if sortOrder = SortOrder.ascendingBarrierGenerationSize then .ok ()
  else if sortOrder = SortOrder.descendingBarrierGenerationSize then .ok ()
  else assert .unknownSortOrder false

def sorts : Query → Bool
  | .getTotal => true
  | .getStats dataSource => dataSource = DataSource.skills ∨ dataSource = DataSource.agents
  | .getDetails _ _ => true
  | .getGroupFilterTotals => false

def query (skills : SkillTable) (q : Query) : Except Assertion Answer := do
  x.assertCombatEnd
  if sorts q = true then x.assertSort
  return x.answer skills q

theorem assertCombatEnd_eq_ok :
    x.assertCombatEnd = .ok () ↔
      CombatEndCondition.InRange x.myOptions.combatEndConditionChoice := by
  rw [CombatEndCondition.inRange_iff]
  unfold assertCombatEnd
  constructor
  · intro ok
    grind [assert_eq_ok]
  · rintro (known | known | known | known) <;> rw [known] <;> rfl

theorem assertSort_eq_ok :
    x.assertSort = .ok () ↔ SortOrder.InRange x.myOptions.sortOrderChoice := by
  rw [SortOrder.inRange_iff]
  unfold assertSort
  constructor
  · intro ok
    grind [assert_eq_ok]
  · rintro (known | known | known | known | known | known | known | known) <;> rw [known] <;> rfl

theorem query_eq_ok (skills : SkillTable) (q : Query) :
    x.query skills q = .ok (x.answer skills q) ↔
      CombatEndCondition.InRange x.myOptions.combatEndConditionChoice ∧
        (sorts q = true → SortOrder.InRange x.myOptions.sortOrderChoice) := by
  rw [← assertCombatEnd_eq_ok, ← assertSort_eq_ok]
  unfold query
  cases x.assertCombatEnd with
  | error a => exact iff_of_false nofun fun h => nomatch h.1
  | ok =>
    cases sorts q with
    | false => exact iff_of_true rfl ⟨rfl, nofun⟩
    | true =>
      cases x.assertSort with
      | error a => exact iff_of_false nofun fun h => nomatch h.2 rfl
      | ok => exact iff_of_true rfl ⟨rfl, fun _ => rfl⟩

theorem construct_eq_ok (data : HealingStats) (options : HealWindowOptions) (debugMode : Bool) :
    construct data options debugMode = .ok ⟨data, options, debugMode⟩ ↔
      options.sortOrderChoice < SortOrder.max ∧ options.dataSourceChoice < DataSource.max := by
  unfold construct assert
  by_cases sort : options.sortOrderChoice < SortOrder.max
  · by_cases source : options.dataSourceChoice < DataSource.max
    · simp [sort, source, bind, Except.bind, pure, Except.pure]
    · simp [sort, source, bind, Except.bind]
  · simp [sort, bind, Except.bind]

end AggregatedStats

/-- No statistics and no query break an assertion. -/
structure Asserted (options : HealWindowOptions) : Prop where
  construct : ∀ data debugMode, AggregatedStats.construct data options debugMode =
    .ok ⟨data, options, debugMode⟩
  query : ∀ (x : AggregatedStats) skills q, x.myOptions = options →
    x.query skills q = .ok (x.answer skills q)

theorem asserted_iff (options : HealWindowOptions) :
    Asserted options ↔
      SortOrder.InRange options.sortOrderChoice ∧ options.dataSourceChoice < DataSource.max ∧
        CombatEndCondition.InRange options.combatEndConditionChoice := by
  constructor
  · intro h
    have built := (AggregatedStats.construct_eq_ok {} options false).mp (h.construct {} false)
    have asked := (AggregatedStats.query_eq_ok _ {} .getTotal).mp
      (h.query ⟨{}, options, false⟩ {} .getTotal rfl)
    exact ⟨asked.2 rfl, built.2, asked.1⟩
  · rintro ⟨sort, source, combatEnd⟩
    refine ⟨fun data debugMode => ?_, fun x skills q same => ?_⟩
    · exact (AggregatedStats.construct_eq_ok data options debugMode).mpr ⟨sort.2, source⟩
    · subst same
      exact (x.query_eq_ok skills q).mpr ⟨combatEnd, fun _ => sort⟩

/-- What a settings file says of an enumeration in one window, cut to 32 bits. -/
def setting (j : Json) (i : Fin healWindowCount) (key : Text) : Option Enumeration :=
  match j.find (utf8 "Windows") with
  | some (.object windows) =>
    match windows.find (Json.digits i) with
    | some window => (window.find key).bind int32.getTo
    | none => none
  | _ => none

theorem getJsonValue_eq (j : Json) (key : Text) (result : Enumeration) :
    int32.getJsonValue j key result = ((j.find key).bind int32.getTo).getD result := by
  unfold getJsonValue
  cases j.find key <;> rfl

theorem windows_fromJson (o : HealTableOptions) (j : Json) (i : Fin healWindowCount)
    (field : HealWindowOptions → Enumeration) {key : Text}
    (reads : ∀ (w : HealWindowOptions) j,
      field (w.fromJson j) = int32.getJsonValue j key (field w)) :
    field ((o.fromJson j).windows i) = (setting j i key).getD (field (o.windows i)) := by
  unfold HealTableOptions.fromJson setting
  dsimp only
  cases j.find (utf8 "Windows") with
  | none => rfl
  | some value =>
    cases value with
    | object windows =>
      dsimp only
      cases windows.find (Json.digits i) with
      | none => rfl
      | some window => exact (reads _ _).trans (getJsonValue_eq _ _ _)
    | _ => rfl

theorem freshWindow_inRange (i : Fin healWindowCount) :
    SortOrder.InRange (freshWindow i).sortOrderChoice ∧
      (freshWindow i).dataSourceChoice < DataSource.max ∧
      CombatEndCondition.InRange (freshWindow i).combatEndConditionChoice := by
  revert i
  decide

theorem getD_iff {P : Enumeration → Prop} {default : Enumeration} (fresh : P default)
    (read : Option Enumeration) : P (read.getD default) ↔ ∀ value, read = some value → P value := by
  cases read with
  | none => exact iff_of_true fresh nofun
  | some value => exact ⟨fun h _ same => Option.some.inj same ▸ h, fun h => h value rfl⟩

/-- The settings that keep to the assertions are those in range. -/
theorem loaded_asserted_iff (j : Json) (i : Fin healWindowCount) :
    Asserted ((HealTableOptions.fromJson {} j).windows i) ↔
      (∀ value, setting j i (utf8 "SortOrderChoice") = some value → SortOrder.InRange value) ∧
      (∀ value, setting j i (utf8 "DataSourceChoice") = some value → value < DataSource.max) ∧
      (∀ value, setting j i (utf8 "CombatEndConditionChoice") = some value →
        CombatEndCondition.InRange value) := by
  obtain ⟨sort, source, combatEnd⟩ := freshWindow_inRange i
  rw [asserted_iff,
    windows_fromJson {} j i HealWindowOptions.sortOrderChoice fun _ _ => rfl,
    windows_fromJson {} j i HealWindowOptions.dataSourceChoice fun _ _ => rfl,
    windows_fromJson {} j i HealWindowOptions.combatEndConditionChoice fun _ _ => rfl]
  exact and_congr (getD_iff sort _) (and_congr
    (getD_iff (P := fun value => value < DataSource.max) source _) (getD_iff combatEnd _))

/-- An order past the last one, and one that is negative. -/
theorem loaded_not_asserted :
    let window (sortOrder : Int64) (rest : Members) :=
      Json.object (.cons (utf8 "SortOrderChoice") (.integer sortOrder) rest)
    let j := Json.object (.cons (utf8 "Windows") (.object
      (.cons (utf8 "0") (window 8 .nil) (.cons (utf8 "1") (window (-1) .nil) .nil))) .nil)
    let o := HealTableOptions.fromJson {} j
    AggregatedStats.construct {} (o.windows ⟨0, by decide⟩) false = .error .sortOrderChoice ∧
      ∃ x, AggregatedStats.construct {} (o.windows ⟨1, by decide⟩) false = .ok x ∧
        x.query {} (.getStats DataSource.skills) = .error .unknownSortOrder := by
  refine ⟨rfl, ⟨{}, _, false⟩, rfl, rfl⟩

end ArcdpsHealing.Stats
