import ArcdpsHealing.Arcdps.Structs

namespace ArcdpsHealing.Stats

open Arcdps

def maxSkillId : UInt32 := 131071

abbrev SkillBits := UInt32 → UInt64

/-- `1ULL << (pSkillId % 64)`. -/
def skillBit (skillId : UInt32) : UInt64 := 1 <<< (skillId % 64).toUInt64

structure SkillTable where
  skillNames : Std.ExtTreeMap UInt32 CString := ∅
  damagingSkills : SkillBits := fun _ => 0
  hybridSkills : SkillBits := fun _ => 0

namespace SkillTable

variable (t : SkillTable)

def registerDamagingSkill (skillId : UInt32) : SkillTable :=
  if skillId > maxSkillId then t
  else { t with damagingSkills := fun word =>
          if word = skillId / 64 then t.damagingSkills word ||| skillBit skillId
          else t.damagingSkills word }

def registerSkillName (skillId : UInt32) (name : CString) : SkillTable :=
  { t with skillNames := t.skillNames.insertIfNew skillId name }

/-- A hybrid skill both heals and does damage. -/
def isSkillIndirectHealing (skillId : UInt32) : Bool :=
  if skillId > maxSkillId then false
  else if t.hybridSkills (skillId / 64) &&& skillBit skillId ≠ 0 then false
  else t.damagingSkills (skillId / 64) &&& skillBit skillId ≠ 0

def getSkillName (skillId : UInt32) : Option CString := t.skillNames[skillId]?

end SkillTable

end ArcdpsHealing.Stats
