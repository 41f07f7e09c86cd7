import ArcdpsHealing.Lib.Word
import ArcdpsHealing.Processor.Relay

namespace ArcdpsHealing.Processor

open Arcdps Networking Lib PlayerStats

structure Spares (off on : PlayerStats) : Prop where
  same : on = { off with lastDamageEvent := on.lastDamageEvent }
  behind : on.lastDamageEvent ≤ off.lastDamageEvent

namespace Spares

variable {off on : PlayerStats} (h : Spares off on)

theorem refl (s : PlayerStats) : Spares s s := ⟨rfl, UInt64.le_refl _⟩

include h

theorem outOfCombat : on.IsOutOfCombat ↔ off.IsOutOfCombat := by
  rw [h.same]
  rfl

theorem enteredCombatTime : on.enteredCombatTime = off.enteredCombatTime := by rw [h.same]

theorem exitedCombatTime : on.exitedCombatTime = off.exitedCombatTime := by rw [h.same]

theorem events : on.events = off.events := by rw [h.same]

theorem enteredCombat (time : UInt64) (subGroup : UInt16) :
    Spares (off.enteredCombat time subGroup) (on.enteredCombat time subGroup) := by
  by_cases out : off.IsOutOfCombat
  · rw [enteredCombat_of_out out, enteredCombat_of_out (h.outOfCombat.mpr out)]
    exact .refl _
  · rw [enteredCombat_of_inCombat out, enteredCombat_of_inCombat (mt h.outOfCombat.mp out)]
    exact h

theorem exitedCombat (time last : UInt64) :
    Spares (off.exitedCombat time last).2 (on.exitedCombat time last).2 := by
  by_cases out : off.IsOutOfCombat
  · rw [exitedCombat_of_out out, exitedCombat_of_out (h.outOfCombat.mpr out)]
    exact h
  have inCombat := mt h.outOfCombat.mp out
  by_cases early : time ≤ off.enteredCombatTime
  · rw [exitedCombat_early out early,
      exitedCombat_early inCombat (h.enteredCombatTime.symm ▸ early)]
    exact h
  · rw [exitedCombat_late out early,
      exitedCombat_late inCombat (h.enteredCombatTime.symm ▸ early)]
    refine ⟨?_, max_le_max_of_le h.behind last⟩
    rw [h.same]

theorem resetIfNotInCombat : Spares off.resetIfNotInCombat.2 on.resetIfNotInCombat.2 := by
  by_cases out : off.IsOutOfCombat
  · rw [resetIfNotInCombat_of_out out, resetIfNotInCombat_of_out (h.outOfCombat.mpr out), h.same]
    exact .refl _
  · rw [resetIfNotInCombat_of_inCombat out,
      resetIfNotInCombat_of_inCombat (mt h.outOfCombat.mp out)]
    exact h

theorem damageEvent (time : UInt64) : Spares (off.damageEvent time) (on.damageEvent time) := by
  by_cases out : off.IsOutOfCombat
  · rw [damageEvent_of_out out, damageEvent_of_out (h.outOfCombat.mpr out)]
    exact h
  · rw [damageEvent_of_inCombat out, damageEvent_of_inCombat (mt h.outOfCombat.mp out)]
    refine ⟨?_, max_le_max_of_le h.behind time⟩
    rw [h.same]

theorem unsentDamage (time : UInt64) : Spares (off.damageEvent time) on := by
  by_cases out : off.IsOutOfCombat
  · rw [damageEvent_of_out out]
    exact h
  · rw [damageEvent_of_inCombat out]
    exact ⟨h.same, le_max_of_le h.behind time⟩

theorem record (e : CbtEvent) (destination : UInt64) (barrier : Bool) :
    Spares (off.record e destination barrier) (on.record e destination barrier) := by
  by_cases out : off.IsOutOfCombat
  · rw [record_of_out out, record_of_out (h.outOfCombat.mpr out)]
    exact h
  · rw [record_of_inCombat out, record_of_inCombat (mt h.outOfCombat.mp out)]
    refine ⟨?_, h.behind⟩
    rw [h.same]

theorem call (k : PlayerStats.Call) : Spares (off.call k) (on.call k) := by
  cases k with
  | enteredCombat time subGroup => exact h.enteredCombat time subGroup
  | exitedCombat time last => exact h.exitedCombat time last
  | resetIfNotInCombat => exact h.resetIfNotInCombat
  | damageEvent time => exact h.damageEvent time
  | healingEvent e destination => exact h.record e destination false
  | barrierGenerationEvent e destination => exact h.record e destination true

end Spares

inductive LocalCallback
  | agent (env : Ambient) (source destination : Ag)
  | combat (x : Callback)

variable (c : Enums)

def deliver (budgetMode : Bool) (i : UInt16) (p : Pair) : LocalCallback → Pair
  | .agent env source destination => { p with sender := p.sender.localAgent env source destination }
  | .combat x => relay c budgetMode i p x

theorem sender_deliver (budgetMode : Bool) (i : UInt16) {p q : Pair} (same : q.sender = p.sender)
    (x : LocalCallback) :
    (deliver c budgetMode i q x).sender = (deliver c false i p x).sender := by
  cases x with
  | agent env source destination =>
    simp only [deliver, same]
  | combat x =>
    simp only [deliver, relay, same]

theorem sentCall_budgetMode (i : UInt16) (s r : EventProcessor) (x : Callback) :
    sentCall c true i s r x = sentCall c false i s r x ∨
      sentCall c true i s r x = none ∧
        ∃ time, sentCall c false i s r x = some (.damageEvent time) := by
  -- Budget mode keeps back damage and nothing else.
  have always (e : CbtEvent) : sendsEvent c false e := fun on => nomatch on
  unfold sentCall
  rw [if_pos (always _)]
  by_cases sends : sendsEvent c true (forwarded c s x)
  · exact .inl (if_pos sends)
  rw [if_neg sends]
  have idle : ∀ k, EventProcessor.peerCall c r (preProcessEvent c (forwarded c s x) true) i =
      some k → ∃ time, k = .damageEvent time := by
    intro k made
    unfold sendsEvent at sends
    rw [Classical.not_imp, not_or, not_or] at sends
    obtain ⟨-, heals, enter, exit⟩ := sends
    have made := EventProcessor.peerCall_cases made
    rw [isStatechange_preProcessEvent] at made
    rcases made with ⟨enters, -⟩ | ⟨exits, -⟩ | damage | ⟨-, -, type, -⟩
    · exact absurd enters enter
    · exact absurd exits exit
    · exact ⟨_, damage⟩
    · rw [getEventType_preProcessEvent] at type
      exact absurd type heals
  cases made : EventProcessor.peerCall c r (preProcessEvent c (forwarded c s x) true) i with
  | none => exact .inl rfl
  | some k =>
    obtain ⟨time, rfl⟩ := idle k made
    exact .inr ⟨rfl, time, rfl⟩

structure Twins (i : UInt16) (u : UInt64) (p q : Pair) : Prop where
  sender : q.sender = p.sender
  table : q.receiver.agentTable = p.receiver.agentTable
  player : p.receiver.agentTable.getUniqueId i false = some u
  spares : Spares (p.receiver.peerState u) (q.receiver.peerState u)

namespace Twins

variable {c} {i : UInt16} {u : UInt64} {p q : Pair}

theorem deliver (h : Twins i u p q) (x : LocalCallback) :
    Twins i u (deliver c false i p x) (deliver c true i q x) := by
  have sender := sender_deliver c true i h.sender x
  cases x with
  | agent env source destination => exact ⟨sender, h.table, h.player, h.spares⟩
  | combat x =>
    have known : q.receiver.agentTable.getUniqueId i false = some u := h.table.symm ▸ h.player
    have off : (relay c false i p x).receiver.peerState u =
        (sentCall c false i p.sender p.receiver x).toList.foldl call (p.receiver.peerState u) :=
      peerState_relay c h.player
    have on : (relay c true i q x).receiver.peerState u =
        (sentCall c true i q.sender q.receiver x).toList.foldl call (q.receiver.peerState u) :=
      peerState_relay c known
    rw [h.sender, sentCall_congr c p.sender h.table] at on
    refine ⟨sender, ?_, ?_, ?_⟩
    · exact (agentTable_relay c).trans (h.table.trans (agentTable_relay c).symm)
    · exact (congrArg (·.getUniqueId i false) (agentTable_relay c)).trans h.player
    · simp only [Processor.deliver, off, on]
      rcases sentCall_budgetMode c i p.sender p.receiver x with same | ⟨none, time, damage⟩
      · rw [same]
        cases sentCall c false i p.sender p.receiver x with
        | none => exact h.spares
        | some k => exact h.spares.call k
      · rw [none, damage]
        exact h.spares.unsentDamage time

theorem run (h : Twins i u p q) (run : List LocalCallback) :
    Twins i u (run.foldl (Processor.deliver c false i) p)
      (run.foldl (Processor.deliver c true i) q) := by
  induction run generalizing p q with
  | nil => exact h
  | cons x run ih => exact ih (h.deliver x)

end Twins

end ArcdpsHealing.Processor
