import ArcdpsHealing.Arcdps.Structs

namespace ArcdpsHealing.Arcdps

/-- The arcdps enumerators that the code compares event fields with. Their
values belong to the arcdps headers. -/
structure Enums where
  enterCombat : UInt8
  exitCombat : UInt8
  foe : UInt8
  strikeDamageNormal : UInt8
  strikeDamageCrit : UInt8
  strikeDamageGlance : UInt8
  skillcast : UInt8
  deriving Repr

def Enums.documented : Enums where
  enterCombat := 1
  exitCombat := 2
  foe := 1
  strikeDamageNormal := 0
  strikeDamageCrit := 1
  strikeDamageGlance := 2
  skillcast := 11

inductive EventType
  | damage | healing | semiDamaging | other
  deriving DecidableEq, Repr

variable (c : Enums)

def getEventType (e : CbtEvent) (isLocal : Bool) : EventType :=
  if e.isStatechange ≠ 0 ∨ e.isActivation ≠ 0 ∨ e.isBuffremove ≠ 0 then .other
  else if e.buff = 0 then
    if e.result = c.strikeDamageNormal ∨ e.result = c.strikeDamageCrit ∨
        e.result = c.strikeDamageGlance then
      if e.value = 0 then .semiDamaging
      else if (isLocal ∧ e.value < 0) ∨ (¬ isLocal ∧ 0 < e.value) then .damage
      else .healing
    else if e.result = c.skillcast then .other
    else .semiDamaging
  else if e.buffDmg = 0 then .semiDamaging
  else if (isLocal ∧ e.buffDmg < 0) ∨ (¬ isLocal ∧ 0 < e.buffDmg) then .damage
  else .healing

/-- `PreProcessEvent`: Glyph of the Stars can only revive, and is marked so. -/
def preProcessEvent (e : CbtEvent) (isLocal : Bool) : CbtEvent :=
  if getEventType c e isLocal = .healing ∧ e.buff ≠ 0 ∧ e.skillid = 55026 then
    { e with isOffcycle := 1 }
  else e

theorem getEventType_preProcessEvent (e : CbtEvent) (isLocal p : Bool) :
    getEventType c (preProcessEvent c e isLocal) p = getEventType c e p := by
  unfold preProcessEvent
  split <;> rfl

theorem preProcessEvent_idem (e : CbtEvent) (isLocal : Bool) :
    preProcessEvent c (preProcessEvent c e isLocal) isLocal = preProcessEvent c e isLocal := by
  have type := getEventType_preProcessEvent c e isLocal isLocal
  unfold preProcessEvent at type ⊢
  split
  · rename_i glyph
    rw [if_pos glyph] at type
    rw [if_pos ⟨type.trans glyph.1, glyph.2⟩]
  · rfl

section

variable (e : CbtEvent) (isLocal : Bool)

@[simp] theorem time_preProcessEvent : (preProcessEvent c e isLocal).time = e.time := by
  unfold preProcessEvent
  split <;> rfl

@[simp] theorem srcInstid_preProcessEvent :
    (preProcessEvent c e isLocal).srcInstid = e.srcInstid := by
  unfold preProcessEvent
  split <;> rfl

@[simp] theorem dstInstid_preProcessEvent :
    (preProcessEvent c e isLocal).dstInstid = e.dstInstid := by
  unfold preProcessEvent
  split <;> rfl

@[simp] theorem dstAgent_preProcessEvent :
    (preProcessEvent c e isLocal).dstAgent = e.dstAgent := by
  unfold preProcessEvent
  split <;> rfl

@[simp] theorem isStatechange_preProcessEvent :
    (preProcessEvent c e isLocal).isStatechange = e.isStatechange := by
  unfold preProcessEvent
  split <;> rfl

@[simp] theorem srcMasterInstid_preProcessEvent :
    (preProcessEvent c e isLocal).srcMasterInstid = e.srcMasterInstid := by
  unfold preProcessEvent
  split <;> rfl

@[simp] theorem isShields_preProcessEvent :
    (preProcessEvent c e isLocal).isShields = e.isShields := by
  unfold preProcessEvent
  split <;> rfl

@[simp] theorem readIff_preProcessEvent : (preProcessEvent c e isLocal).readIff = e.readIff := by
  unfold preProcessEvent
  split <;> rfl

end

end ArcdpsHealing.Arcdps
