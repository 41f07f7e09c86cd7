import ArcdpsHealing.Arcdps.Structs

namespace ArcdpsHealing.Settings

open Arcdps

/-- A `char` array of `n` bytes, read up to its terminator. -/
abbrev FixedString (n : Nat) := { s : CString // s.length < n ∧ 0 ∉ s }

def utf8 (s : String) : CString := s.toList.flatMap String.utf8EncodeChar

namespace FixedString

def empty {n : Nat} (h : 0 < n) : FixedString n := ⟨[], h, List.not_mem_nil⟩

end FixedString

def maxHealWindowName : Nat := 31
def maxHealWindowTitle : Nat := 127
def maxHealWindowEntry : Nat := 127
def maxHealWindowIncludedSkills : Nat := 127
def healWindowCount : Nat := 10

/-- An enumeration of the source is its underlying `int`, which settings may set
to anything. -/
abbrev Enumeration := Int32

namespace DataSource

def agents : Enumeration := 0
def skills : Enumeration := 1
def totals : Enumeration := 2
def combined : Enumeration := 3
def peersOutgoing : Enumeration := 4
def max : Enumeration := 5

end DataSource

namespace SortOrder

def ascendingAlphabetical : Enumeration := 0
def descendingAlphabetical : Enumeration := 1
def ascendingTotalOutgoingSize : Enumeration := 2
def descendingTotalOutgoingSize : Enumeration := 3
def ascendingHealSize : Enumeration := 4
def descendingHealSize : Enumeration := 5
def ascendingBarrierGenerationSize : Enumeration := 6
def descendingBarrierGenerationSize : Enumeration := 7
def max : Enumeration := 8

def InRange (sortOrder : Enumeration) : Prop := 0 ≤ sortOrder ∧ sortOrder < max

instance (sortOrder : Enumeration) : Decidable (InRange sortOrder) :=
  inferInstanceAs (Decidable (_ ∧ _))

theorem InRange.cases {sortOrder : Enumeration} (h : InRange sortOrder) :
    sortOrder = ascendingAlphabetical ∨ sortOrder = descendingAlphabetical ∨
    sortOrder = ascendingTotalOutgoingSize ∨ sortOrder = descendingTotalOutgoingSize ∨
    sortOrder = ascendingHealSize ∨ sortOrder = descendingHealSize ∨
    sortOrder = ascendingBarrierGenerationSize ∨
    sortOrder = descendingBarrierGenerationSize := by
  obtain ⟨low, high⟩ := h
  simp only [← Int32.toInt_inj, Int32.le_iff_toInt_le, Int32.lt_iff_toInt_lt] at *
  change 0 ≤ sortOrder.toInt at low
  change sortOrder.toInt < 8 at high
  change sortOrder.toInt = 0 ∨ sortOrder.toInt = 1 ∨ sortOrder.toInt = 2 ∨ sortOrder.toInt = 3 ∨
    sortOrder.toInt = 4 ∨ sortOrder.toInt = 5 ∨ sortOrder.toInt = 6 ∨ sortOrder.toInt = 7
  omega

theorem inRange_iff {sortOrder : Enumeration} : InRange sortOrder ↔
    sortOrder = ascendingAlphabetical ∨ sortOrder = descendingAlphabetical ∨
    sortOrder = ascendingTotalOutgoingSize ∨ sortOrder = descendingTotalOutgoingSize ∨
    sortOrder = ascendingHealSize ∨ sortOrder = descendingHealSize ∨
    sortOrder = ascendingBarrierGenerationSize ∨
    sortOrder = descendingBarrierGenerationSize := by
  refine ⟨InRange.cases, ?_⟩
  rintro (rfl | rfl | rfl | rfl | rfl | rfl | rfl | rfl) <;> decide

end SortOrder

namespace CombatEndCondition

def combatExit : Enumeration := 0
def lastDamageEvent : Enumeration := 1
def lastHealEvent : Enumeration := 2
def lastDamageOrHealEvent : Enumeration := 3
def max : Enumeration := 4

def ByHeal (choice : Enumeration) : Prop :=
  choice = lastHealEvent ∨ choice = lastDamageOrHealEvent

def InRange (choice : Enumeration) : Prop := 0 ≤ choice ∧ choice < max

instance (choice : Enumeration) : Decidable (InRange choice) :=
  inferInstanceAs (Decidable (_ ∧ _))

theorem InRange.cases {choice : Enumeration} (h : InRange choice) :
    choice = combatExit ∨ choice = lastHealEvent ∨ choice = lastDamageEvent ∨
      choice = lastDamageOrHealEvent := by
  obtain ⟨low, high⟩ := h
  simp only [← Int32.toInt_inj, Int32.le_iff_toInt_le, Int32.lt_iff_toInt_lt] at *
  change 0 ≤ choice.toInt at low
  change choice.toInt < 4 at high
  change choice.toInt = 0 ∨ choice.toInt = 2 ∨ choice.toInt = 1 ∨ choice.toInt = 3
  omega

theorem inRange_iff {choice : Enumeration} : InRange choice ↔
    choice = combatExit ∨ choice = lastHealEvent ∨ choice = lastDamageEvent ∨
      choice = lastDamageOrHealEvent := by
  refine ⟨InRange.cases, ?_⟩
  rintro (rfl | rfl | rfl | rfl) <;> decide

end CombatEndCondition

def defaultTitleFormat : FixedString (maxHealWindowTitle + 1) :=
  ⟨utf8 "{1} ({4}/秒，進入戰鬥{7}秒)", by decide +kernel⟩

def defaultEntryFormat : FixedString (maxHealWindowEntry + 1) :=
  ⟨utf8 "{1} ({4}/秒，{7}%)", by decide +kernel⟩

/-- The options of one window. -/
structure HealWindowOptions where
  shown : Bool := false
  dataSourceChoice : Enumeration := DataSource.agents
  sortOrderChoice : Enumeration := SortOrder.descendingTotalOutgoingSize
  combatEndConditionChoice : Enumeration := CombatEndCondition.lastDamageEvent
  excludeGroup : Bool := false
  excludeOffGroup : Bool := false
  excludeOffSquad : Bool := false
  excludeMinions : Bool := true
  excludeUnmapped : Bool := true
  excludeHealing : Bool := false
  excludeBarrierGeneration : Bool := true
  excludeAgainstDowned : Bool := false
  excludeAgainstNonDowned : Bool := false
  showProgressBars : Bool := true
  useSubgroupForBarColour : Bool := false
  useProfessionForBarColour : Bool := false
  indexNumbers : Bool := false
  professionText : Bool := false
  professionIcons : Bool := false
  replacePlayerWithAccountName : Bool := false
  useProfessionForNameColour : Bool := false
  useSubgroupForNameColour : Bool := false
  selfOnTop : Bool := false
  hideSelfFromList : Bool := false
  selfOnly : Bool := false
  anonymousMode : Bool := false
  name : FixedString (maxHealWindowName + 1) := .empty (Nat.succ_pos _)
  titleFormat : FixedString (maxHealWindowTitle + 1) := defaultTitleFormat
  entryFormat : FixedString (maxHealWindowEntry + 1) := defaultEntryFormat
  detailsEntryFormat : FixedString (maxHealWindowEntry + 1) := defaultEntryFormat
  includedSkills : FixedString (maxHealWindowIncludedSkills + 1) := .empty (Nat.succ_pos _)
  windowFlags : Int32 := 0
  hotkey : Int32 := 0
  positionRule : Enumeration := 0
  relativeScreenCorner : Enumeration := 0
  relativeSelfCorner : Enumeration := 0
  relativeAnchorWindowCorner : Enumeration := 0
  relativeX : Int64 := 0
  relativeY : Int64 := 0
  anchorWindowId : UInt32 := 0
  autoResize : Bool := false
  maxNameLength : Int64 := 0
  minLinesDisplayed : UInt64 := 0
  maxLinesDisplayed : UInt64 := 10
  fixedWindowWidth : UInt64 := 400
  deriving DecidableEq

end ArcdpsHealing.Settings
