import ArcdpsHealing.Lib.BitSet
import ArcdpsHealing.Lib.Reconcile
import ArcdpsHealing.Settings.State
import ArcdpsHealing.Stats.SkillTable

namespace ArcdpsHealing.Stats

open Arcdps Lib Settings

/-- `(MAX_SKILL_ID + 1) / 64`. -/
def skillWords : Nat := (maxSkillId.toNat + 1) / 64

/-- The skills that both heal and do damage. -/
def hybridSkillIds : List UInt32 :=
  [2654, 5510, 5549, 5570, 5595, 9080, 9090, 9095, 9097, 9108, 9111, 9140, 9143, 9146, 9161, 9192,
    9208, 9950, 9952, 9954, 9955, 9956, 9957, 10190, 10191, 10560, 10563, 10594, 10619, 10643,
    12424, 13677, 13684, 14419, 15259, 21656, 24800, 26557, 26646, 29145, 29789, 29856, 30359,
    30285, 30488, 30504, 30525, 30783, 30814, 30864, 33792, 34207, 37475, 40624, 41052, 43199,
    44405, 44428, 45026, 45983, 51646, 51692, 56928, 56930, 57117, 57239, 57244, 57253, 57267,
    57269, 57295, 57341, 57356, 57401, 57409, 62667, 63160, 63167, 63220, 63249, 63362, 69302,
    71799, 71800, 71813, 71850, 71871, 71875, 71882, 71892, 71897, 71901, 71922, 71932, 71950,
    71970, 71986, 71987, 71999, 72002, 72005, 72028, 72029, 72033, 72049, 72051, 72062, 72089,
    72923, 72940, 73055, 73132, 76708, 76923, 77164, 79489, 79336]

/-- The names that take the place of those that arcdps gives. -/
def skillNameOverrides : List (UInt32 × CString) :=
  [(1066, utf8 "Revive"),
    (1196, utf8 "Revive (Pet)"),
    (13594, utf8 "Selfless Daring"),
    (14024, utf8 "Natural Healing"),
    (26558, utf8 "Energy Expulsion"),
    (29863, utf8 "Live Vicariously"),
    (30313, utf8 "Escapist's Fortitude"),
    (64148, utf8 "Rescue Protocol"),
    (21750, utf8 "Signet of the Ether (Active)"),
    (21775, utf8 "Aqua Surge (Self)"),
    (21776, utf8 "Aqua Surge (Area)"),
    (26937, utf8 "Enchanted Daggers (Initial)"),
    (28313, utf8 "Enchanted Daggers (Siphon)"),
    (45686, utf8 "Breakrazor's Bastion (Self)"),
    (46232, utf8 "Breakrazor's Bastion (Area)"),
    (49103, utf8 "Signet of the Ether (Passive)"),
    (40787, utf8 "Chapter 1: Desert Bloom"),
    (41714, utf8 "Mantra of Solace")]

/-- The members of the class `SkillTable`. -/
structure SkillArrays where
  skillNames : Std.ExtTreeMap UInt32 CString
  damagingSkills : BitArray skillWords
  hybridSkills : BitArray skillWords

/-- A call that registers something. -/
inductive SkillCall
  | damagingSkill (skillId : UInt32)
  | skillName (skillId : UInt32) (name : CString)
  deriving DecidableEq

namespace SkillArrays

def entry (s : BitArray skillWords) (skillId : UInt32) : Except Fault (BitArray skillWords) := do
  let (_, s) ← s.fetchOr (skillId / 64) (skillBit skillId)
  return s

def emplaceNames (rows : List (UInt32 × CString)) (names : Std.ExtTreeMap UInt32 CString) :
    Std.ExtTreeMap UInt32 CString :=
  rows.foldl (fun names row => names.insertIfNew row.1 row.2) names

/-- `SkillTable()`. -/
def new : Except Fault SkillArrays := do
  let hybridSkills ← hybridSkillIds.foldlM entry (.replicate skillWords 0)
  return ⟨emplaceNames skillNameOverrides ∅, .replicate skillWords 0, hybridSkills⟩

variable (t : SkillArrays)

def registerDamagingSkill (skillId : UInt32) : Except Fault SkillArrays :=
  if skillId > maxSkillId then return t
  else do
    let (_, damagingSkills) ← t.damagingSkills.fetchOr (skillId / 64) (skillBit skillId)
    return { t with damagingSkills := damagingSkills }

def registerSkillName (skillId : UInt32) (name : CString) : SkillArrays :=
  { t with skillNames := t.skillNames.insertIfNew skillId name }

def isSkillIndirectHealing (skillId : UInt32) : Except Fault Bool :=
  if skillId > maxSkillId then return false
  else do
    let val1 ← t.hybridSkills.load (skillId / 64)
    if val1 &&& skillBit skillId ≠ 0 then return false
    else
      let val2 ← t.damagingSkills.load (skillId / 64)
      return val2 &&& skillBit skillId ≠ 0

def getSkillName (skillId : UInt32) : Option CString := t.skillNames[skillId]?

def call : SkillCall → Except Fault SkillArrays
  | .damagingSkill skillId => t.registerDamagingSkill skillId
  | .skillName skillId name => return t.registerSkillName skillId name

def toTable : SkillTable where
  skillNames := t.skillNames
  damagingSkills := t.damagingSkills.toBits
  hybridSkills := t.hybridSkills.toBits

end SkillArrays

/-- The name that a skill is first registered with. -/
def firstName (skillId : UInt32) : List SkillCall → Option CString
  | [] => none
  | .damagingSkill _ :: calls => firstName skillId calls
  | .skillName id name :: calls => if id = skillId then some name else firstName skillId calls

namespace SkillTable

variable (t : SkillTable)

def call : SkillCall → SkillTable
  | .damagingSkill skillId => t.registerDamagingSkill skillId
  | .skillName skillId name => t.registerSkillName skillId name

theorem isSkillIndirectHealing_iff {skillId : UInt32} :
    t.isSkillIndirectHealing skillId = true ↔ skillId ≤ maxSkillId ∧
      Bits.Mem t.damagingSkills skillId ∧ ¬ Bits.Mem t.hybridSkills skillId := by
  unfold isSkillIndirectHealing
  by_cases high : skillId > maxSkillId
  · rw [if_pos high]
    exact iff_of_false Bool.false_ne_true fun h => UInt32.not_lt.mpr h.1 high
  · rw [if_neg high]
    by_cases hybrid : t.hybridSkills (skillId / 64) &&& skillBit skillId ≠ 0
    · rw [if_pos hybrid]
      exact iff_of_false Bool.false_ne_true fun h => h.2.2 hybrid
    · rw [if_neg hybrid, decide_eq_true_iff]
      exact ⟨fun bit => ⟨UInt32.not_lt.mp high, bit, hybrid⟩, fun h => h.2.1⟩

theorem mem_damagingSkills_call (c : SkillCall) (skillId : UInt32) :
    Bits.Mem (t.call c).damagingSkills skillId ↔
      Bits.Mem t.damagingSkills skillId ∨ skillId ≤ maxSkillId ∧ c = .damagingSkill skillId := by
  cases c with
  | skillName id name => simp [call, registerSkillName]
  | damagingSkill id =>
    rw [call, registerDamagingSkill]
    split
    · rename_i high
      refine (or_iff_left ?_).symm
      rintro ⟨low, same⟩
      cases same
      exact UInt32.not_lt.mpr low high
    · rename_i low
      refine Bits.mem_add.trans (or_congr_right ⟨?_, ?_⟩)
      · rintro rfl
        exact ⟨UInt32.not_lt.mp low, rfl⟩
      · rintro ⟨_, same⟩
        cases same
        rfl

theorem mem_damagingSkills_foldl (calls : List SkillCall) (skillId : UInt32) :
    Bits.Mem (calls.foldl call t).damagingSkills skillId ↔
      Bits.Mem t.damagingSkills skillId ∨
        skillId ≤ maxSkillId ∧ .damagingSkill skillId ∈ calls := by
  induction calls generalizing t with
  | nil => simp
  | cons c calls ih =>
    rw [List.foldl_cons, ih, mem_damagingSkills_call, List.mem_cons, or_assoc, ← and_or_left,
      eq_comm]

theorem hybridSkills_foldl (calls : List SkillCall) :
    (calls.foldl call t).hybridSkills = t.hybridSkills := by
  induction calls generalizing t with
  | nil => rfl
  | cons c calls ih =>
    rw [List.foldl_cons, ih]
    cases c with
    | skillName id name => rfl
    | damagingSkill id =>
      rw [call, registerDamagingSkill]
      split <;> rfl

theorem getSkillName_foldl (calls : List SkillCall) (skillId : UInt32) :
    (calls.foldl call t).getSkillName skillId =
      (t.getSkillName skillId).or (firstName skillId calls) := by
  induction calls generalizing t with
  | nil => exact (Option.or_none).symm
  | cons c calls ih =>
    rw [List.foldl_cons, ih]
    cases c with
    | damagingSkill id =>
      rw [call, registerDamagingSkill]
      split <;> rfl
    | skillName id name =>
      rw [call, registerSkillName, getSkillName, Reconcile.getElem?_insertIfNew_eq_or,
        Option.or_assoc, firstName]
      split <;> rfl

end SkillTable

namespace SkillArrays

theorem word_lt {skillId : UInt32} (low : skillId ≤ maxSkillId) :
    (skillId / 64).toNat < skillWords := by
  have bound : skillId.toNat ≤ 131071 := low
  rw [UInt32.toNat_div]
  change skillId.toNat / 64 < 2048
  omega

theorem entries_eq {ids : List UInt32} (low : ∀ id ∈ ids, id ≤ maxSkillId)
    (s : BitArray skillWords) :
    ∃ s', ids.foldlM entry s = .ok s' ∧ s'.toBits = ids.foldl Bits.add s.toBits := by
  induction ids generalizing s with
  | nil => exact ⟨s, rfl, rfl⟩
  | cons id ids ih =>
    obtain ⟨s', stored, bits⟩ := s.fetchOr_eq (word_lt (low id (.head _)))
    obtain ⟨s'', rest, all⟩ := ih (fun id member => low id (.tail _ member)) s'
    have first : entry s id = .ok s' := by
      rw [entry, skillBit, ← Bits.mask, stored]
      rfl
    refine ⟨s'', ?_, ?_⟩
    · rw [List.foldlM_cons, first, ok_bind, rest]
    · rw [all, bits, List.foldl_cons]

theorem getElem?_emplaceNames (rows : List (UInt32 × CString))
    (names : Std.ExtTreeMap UInt32 CString) (skillId : UInt32) :
    (emplaceNames rows names)[skillId]? = (names[skillId]?).or (rows.lookup skillId) := by
  induction rows generalizing names with
  | nil => exact (Option.or_none).symm
  | cons row rows ih =>
    obtain ⟨id, name⟩ := row
    rw [emplaceNames, List.foldl_cons, ← emplaceNames, ih,
      Reconcile.getElem?_insertIfNew_eq_or, Option.or_assoc, List.lookup_cons]
    by_cases here : id = skillId
    · simp [here]
    · have other : (skillId == id) = false := beq_false_of_ne (Ne.symm here)
      simp [here, other]

theorem new_eq : ∃ t, new = .ok t ∧ t.toTable.damagingSkills = (fun _ => 0) ∧
    (∀ skillId, Bits.Mem t.toTable.hybridSkills skillId ↔ skillId ∈ hybridSkillIds) ∧
    ∀ skillId, t.toTable.getSkillName skillId = skillNameOverrides.lookup skillId := by
  have low : ∀ id ∈ hybridSkillIds, id ≤ maxSkillId := by
    have all : hybridSkillIds.all (· ≤ maxSkillId) = true := by decide
    simpa using all
  obtain ⟨hybridSkills, stored, bits⟩ := entries_eq low (.replicate skillWords 0)
  refine ⟨⟨emplaceNames skillNameOverrides ∅, .replicate skillWords 0, hybridSkills⟩, ?_,
    BitArray.toBits_zero, fun skillId => ?_, fun skillId => ?_⟩
  · rw [new, stored]
    rfl
  · change Bits.Mem hybridSkills.toBits skillId ↔ _
    rw [bits, BitArray.toBits_zero, Bits.mem_foldl_add, or_iff_right (Bits.not_mem_zero skillId)]
  · change (emplaceNames skillNameOverrides ∅)[skillId]? = _
    rw [getElem?_emplaceNames, Std.ExtTreeMap.getElem?_empty, Option.none_or]

variable (t : SkillArrays)

theorem registerDamagingSkill_eq (skillId : UInt32) :
    ∃ t', t.registerDamagingSkill skillId = .ok t' ∧
      t'.toTable = t.toTable.registerDamagingSkill skillId := by
  unfold registerDamagingSkill SkillTable.registerDamagingSkill
  by_cases high : skillId > maxSkillId
  · rw [if_pos high, if_pos high]
    exact ⟨t, rfl, rfl⟩
  · rw [if_neg high, if_neg high]
    obtain ⟨s', stored, bits⟩ :=
      t.damagingSkills.fetchOr_eq (word_lt (UInt32.not_lt.mp high))
    rw [skillBit, ← Bits.mask, stored]
    refine ⟨{ t with damagingSkills := s' }, rfl, ?_⟩
    rw [toTable, bits]
    rfl

theorem isSkillIndirectHealing_eq (skillId : UInt32) :
    t.isSkillIndirectHealing skillId = .ok (t.toTable.isSkillIndirectHealing skillId) := by
  unfold isSkillIndirectHealing SkillTable.isSkillIndirectHealing
  by_cases high : skillId > maxSkillId
  · rw [if_pos high, if_pos high]
    rfl
  · have inside := word_lt (UInt32.not_lt.mp high)
    have val1 : t.hybridSkills.load (skillId / 64) = .ok (t.toTable.hybridSkills (skillId / 64)) :=
      t.hybridSkills.load_eq inside
    have val2 :
        t.damagingSkills.load (skillId / 64) = .ok (t.toTable.damagingSkills (skillId / 64)) :=
      t.damagingSkills.load_eq inside
    rw [if_neg high, if_neg high, val1, val2, ok_bind]
    by_cases hybrid : t.toTable.hybridSkills (skillId / 64) &&& skillBit skillId ≠ 0
    · rw [if_pos hybrid, if_pos hybrid]
      rfl
    · rw [if_neg hybrid, if_neg hybrid]
      rfl

theorem call_eq (c : SkillCall) : ∃ t', t.call c = .ok t' ∧ t'.toTable = t.toTable.call c := by
  cases c with
  | damagingSkill skillId => exact t.registerDamagingSkill_eq skillId
  | skillName skillId name => exact ⟨t.registerSkillName skillId name, rfl, rfl⟩

theorem calls_eq (calls : List SkillCall) :
    ∃ t', calls.foldlM call t = .ok t' ∧ t'.toTable = calls.foldl SkillTable.call t.toTable := by
  induction calls generalizing t with
  | nil => exact ⟨t, rfl, rfl⟩
  | cons c calls ih =>
    obtain ⟨t', first, table⟩ := t.call_eq c
    obtain ⟨t'', rest, all⟩ := ih t'
    refine ⟨t'', ?_, ?_⟩
    · rw [List.foldlM_cons, first, ok_bind, rest]
    · rw [all, table, List.foldl_cons]

/-- Whatever is registered in whatever order, no access is out of bounds, and each
skill is indirect healing and has a name by what was registered for it alone. -/
theorem skillArrays_refine (calls : List SkillCall) (skillId : UInt32) :
    ∃ initial t, new = .ok initial ∧ calls.foldlM call initial = .ok t ∧
      (∃ indirect, t.isSkillIndirectHealing skillId = .ok indirect ∧
        (indirect = true ↔ skillId ≤ maxSkillId ∧ .damagingSkill skillId ∈ calls ∧
          skillId ∉ hybridSkillIds)) ∧
      t.getSkillName skillId =
        (skillNameOverrides.lookup skillId).or (firstName skillId calls) ∧
      (∃ t', t.registerDamagingSkill skillId = .ok t' ∧ (skillId > maxSkillId → t' = t)) := by
  obtain ⟨initial, made, unregistered, hybrid, overrides⟩ := new_eq
  obtain ⟨t, run, table⟩ := initial.calls_eq calls
  refine ⟨initial, t, made, run, ⟨_, t.isSkillIndirectHealing_eq skillId, ?_⟩, ?_, ?_⟩
  · rw [SkillTable.isSkillIndirectHealing_iff, table, SkillTable.mem_damagingSkills_foldl,
      SkillTable.hybridSkills_foldl, hybrid, unregistered,
      or_iff_right (Bits.not_mem_zero skillId), and_assoc, ← and_assoc, and_self]
  · change t.toTable.getSkillName skillId = _
    rw [table, SkillTable.getSkillName_foldl, overrides]
  · obtain ⟨t', stored, -⟩ := t.registerDamagingSkill_eq skillId
    refine ⟨t', stored, fun high => ?_⟩
    rw [registerDamagingSkill, if_pos high] at stored
    cases stored
    rfl

end SkillArrays

end ArcdpsHealing.Stats
