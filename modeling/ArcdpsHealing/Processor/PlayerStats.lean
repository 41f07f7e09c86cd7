import ArcdpsHealing.Arcdps.Structs

namespace ArcdpsHealing.Processor

open Arcdps

structure HealEvent where
  time : UInt64
  size : UInt64
  agentId : UInt64
  skillId : UInt32
  isBarrierGeneration : Bool
  isAgainstDowned : Bool
  deriving DecidableEq, Repr

/-- `HealingStatsSlim`, the whole of what a `PlayerStats` keeps. -/
structure PlayerStats where
  enteredCombatTime : UInt64 := 0
  exitedCombatTime : UInt64 := 0
  lastDamageEvent : UInt64 := 0
  subGroup : UInt16 := 0
  events : List HealEvent := []
  deriving DecidableEq, Repr

namespace PlayerStats

def IsOutOfCombat (s : PlayerStats) : Prop := s.enteredCombatTime = 0 ∨ s.exitedCombatTime ≠ 0

instance (s : PlayerStats) : Decidable s.IsOutOfCombat :=
  inferInstanceAs (Decidable (_ ∨ _))

def enteredCombat (s : PlayerStats) (time : UInt64) (subGroup : UInt16) : PlayerStats :=
  if s.IsOutOfCombat then
    { enteredCombatTime := time, exitedCombatTime := 0, lastDamageEvent := 0
      subGroup := subGroup, events := [] }
  else s

/-- The last damage event time, or 0 if combat was not really exited. -/
def exitedCombat (s : PlayerStats) (time : UInt64) (lastDamageEventTime : UInt64 := 0) :
    UInt64 × PlayerStats :=
  if s.IsOutOfCombat then (0, s)
  else if time ≤ s.enteredCombatTime then (0, s)
  else
    let last := max s.lastDamageEvent lastDamageEventTime
    (last, { s with exitedCombatTime := time, lastDamageEvent := last })

/-- Whether there was a reset; it spares the subgroup. -/
def resetIfNotInCombat (s : PlayerStats) : Bool × PlayerStats :=
  if s.IsOutOfCombat then
    (true, { s with enteredCombatTime := 0, exitedCombatTime := 0, lastDamageEvent := 0
                    events := [] })
  else (false, s)

def damageEvent (s : PlayerStats) (time : UInt64) : PlayerStats :=
  if s.IsOutOfCombat then s else { s with lastDamageEvent := max s.lastDamageEvent time }

/-- `HealingEvent` and `BarrierGenerationEvent` differ in one flag only. -/
def record (s : PlayerStats) (e : CbtEvent) (destinationAgentId : UInt64)
    (isBarrierGeneration : Bool) : PlayerStats :=
  let amount := e.value.toUInt32
  let amount := if amount = 0 then e.buffDmg.toUInt32 else amount
  if s.IsOutOfCombat then s
  else
    { s with events := s.events ++
        [⟨e.time, amount.toUInt64, destinationAgentId, e.skillid, isBarrierGeneration,
          e.isOffcycle = 1⟩] }

def healingEvent (s : PlayerStats) (e : CbtEvent) (destinationAgentId : UInt64) : PlayerStats :=
  s.record e destinationAgentId false

def barrierGenerationEvent (s : PlayerStats) (e : CbtEvent) (destinationAgentId : UInt64) :
    PlayerStats :=
  s.record e destinationAgentId true

def healEvent (e : CbtEvent) (destinationAgentId : UInt64) (isBarrierGeneration : Bool) :
    HealEvent where
  time := e.time
  size := (if e.value.toUInt32 = 0 then e.buffDmg.toUInt32 else e.value.toUInt32).toUInt64
  agentId := destinationAgentId
  skillId := e.skillid
  isBarrierGeneration := isBarrierGeneration
  isAgainstDowned := e.isOffcycle = 1

section Outside

variable {s : PlayerStats} {time last : UInt64} {subGroup : UInt16} {e : CbtEvent}
  {destinationAgentId : UInt64} {isBarrierGeneration : Bool} (out : s.IsOutOfCombat)

include out

theorem enteredCombat_of_out :
    s.enteredCombat time subGroup = { enteredCombatTime := time, subGroup := subGroup } :=
  if_pos out

theorem exitedCombat_of_out : s.exitedCombat time last = (0, s) := if_pos out

theorem resetIfNotInCombat_of_out : s.resetIfNotInCombat = (true, { subGroup := s.subGroup }) :=
  if_pos out

theorem damageEvent_of_out : s.damageEvent time = s := if_pos out

theorem record_of_out : s.record e destinationAgentId isBarrierGeneration = s := if_pos out

end Outside

section Inside

variable {s : PlayerStats} {time last : UInt64} {subGroup : UInt16} {e : CbtEvent}
  {destinationAgentId : UInt64} {isBarrierGeneration : Bool} (inCombat : ¬ s.IsOutOfCombat)

include inCombat

theorem enteredCombat_of_inCombat : s.enteredCombat time subGroup = s := if_neg inCombat

theorem exitedCombat_early (early : time ≤ s.enteredCombatTime) :
    s.exitedCombat time last = (0, s) :=
  (if_neg inCombat).trans (if_pos early)

theorem exitedCombat_late (late : ¬ time ≤ s.enteredCombatTime) :
    s.exitedCombat time last = (max s.lastDamageEvent last,
      { s with exitedCombatTime := time, lastDamageEvent := max s.lastDamageEvent last }) :=
  (if_neg inCombat).trans (if_neg late)

theorem resetIfNotInCombat_of_inCombat : s.resetIfNotInCombat = (false, s) := if_neg inCombat

theorem damageEvent_of_inCombat :
    s.damageEvent time = { s with lastDamageEvent := max s.lastDamageEvent time } :=
  if_neg inCombat

theorem record_of_inCombat : s.record e destinationAgentId isBarrierGeneration =
    { s with events := s.events ++ [healEvent e destinationAgentId isBarrierGeneration] } :=
  if_neg inCombat

end Inside

end PlayerStats

end ArcdpsHealing.Processor
