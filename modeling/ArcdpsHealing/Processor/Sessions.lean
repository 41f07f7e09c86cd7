import ArcdpsHealing.Processor.PlayerStats
import Mathlib.Data.List.Induction

namespace ArcdpsHealing.Processor.PlayerStats

open Arcdps

inductive Call
  | enteredCombat (time : UInt64) (subGroup : UInt16)
  | exitedCombat (time lastDamageEventTime : UInt64)
  | resetIfNotInCombat
  | damageEvent (time : UInt64)
  | healingEvent (e : CbtEvent) (destinationAgentId : UInt64)
  | barrierGenerationEvent (e : CbtEvent) (destinationAgentId : UInt64)
  deriving DecidableEq

def call (s : PlayerStats) : Call → PlayerStats
  | .enteredCombat time subGroup => s.enteredCombat time subGroup
  | .exitedCombat time lastDamageEventTime => (s.exitedCombat time lastDamageEventTime).2
  | .resetIfNotInCombat => s.resetIfNotInCombat.2
  | .damageEvent time => s.damageEvent time
  | .healingEvent e destinationAgentId => s.healingEvent e destinationAgentId
  | .barrierGenerationEvent e destinationAgentId => s.barrierGenerationEvent e destinationAgentId

def after (calls : List Call) : PlayerStats := calls.foldl call {}

theorem after_append (calls calls' : List Call) :
    after (calls ++ calls') = calls'.foldl call (after calls) :=
  List.foldl_append

namespace Call

def event : Call → Option HealEvent
  | enteredCombat _ _ => none
  | exitedCombat _ _ => none
  | resetIfNotInCombat => none
  | damageEvent _ => none
  | healingEvent e destinationAgentId => some (healEvent e destinationAgentId false)
  | barrierGenerationEvent e destinationAgentId => some (healEvent e destinationAgentId true)

def damageTime : Call → Option UInt64
  | enteredCombat _ _ => none
  | exitedCombat _ _ => none
  | resetIfNotInCombat => none
  | damageEvent time => some time
  | healingEvent _ _ => none
  | barrierGenerationEvent _ _ => none

def healTime : Call → Option UInt64
  | enteredCombat _ _ => none
  | exitedCombat _ _ => none
  | resetIfNotInCombat => none
  | damageEvent _ => none
  | healingEvent e _ => some e.time
  | barrierGenerationEvent e _ => some e.time

theorem event_time (c : Call) : c.event.map HealEvent.time = c.healTime := by
  cases c <;> rfl

end Call

structure Combat where
  before : List Call
  time : UInt64
  subGroup : UInt16
  window : List Call
  exit : Option (UInt64 × UInt64)
  rest : List Call

namespace Combat

variable (f : Combat)

def exitCalls : List Call := (f.exit.map fun e => Call.exitedCombat e.1 e.2).toList

def calls : List Call :=
  f.before ++ .enteredCombat f.time f.subGroup :: (f.window ++ (f.exitCalls ++ f.rest))

/-- The last combat of some calls: the player was found out of combat, no exit
before the accepted one came later than the enter, and nothing entered combat
again afterwards. -/
structure LastOf (calls : List Call) : Prop where
  split : calls = f.calls
  found : (after f.before).IsOutOfCombat
  early : ∀ t last, .exitedCombat t last ∈ f.window → t ≤ f.time
  accepted : ∀ e ∈ f.exit, f.time < e.1
  still : f.exit = none → f.rest = []
  last : ∀ t g, .enteredCombat t g ∉ f.rest

def lastDamageEvent : UInt64 :=
  (f.window.filterMap Call.damageTime ++ (f.exit.map (·.2)).toList).foldl max 0

def stats : PlayerStats :=
  if .resetIfNotInCombat ∈ f.rest then { subGroup := f.subGroup }
  else
    { enteredCombatTime := f.time
      exitedCombatTime := (f.exit.map (·.1)).getD 0
      lastDamageEvent := f.lastDamageEvent
      subGroup := f.subGroup
      events := f.window.filterMap Call.event }

end Combat

theorem foldl_window {time : UInt64} (proper : time ≠ 0) {window : List Call}
    (early : ∀ t last, .exitedCombat t last ∈ window → t ≤ time) (lastDamageEvent : UInt64)
    (subGroup : UInt16) (events : List HealEvent) :
    window.foldl call
        { enteredCombatTime := time, lastDamageEvent := lastDamageEvent, subGroup := subGroup
          events := events } =
      { enteredCombatTime := time
        lastDamageEvent := (window.filterMap Call.damageTime).foldl max lastDamageEvent
        subGroup := subGroup
        events := events ++ window.filterMap Call.event } := by
  -- In combat, until an exit is accepted.
  have inCombat (last : UInt64) (events : List HealEvent) : ¬ IsOutOfCombat
      { enteredCombatTime := time, lastDamageEvent := last, subGroup := subGroup
        events := events } := by
    simp [IsOutOfCombat, proper]
  induction window generalizing lastDamageEvent events with
  | nil => simp
  | cons c window ih =>
    have ih := ih fun t last member => early t last (List.mem_cons_of_mem c member)
    rw [List.foldl_cons]
    cases c with
    | enteredCombat t g =>
      rw [call, enteredCombat_of_inCombat (inCombat _ _), ih]
      rfl
    | exitedCombat t last =>
      have late : t ≤ time := early t last List.mem_cons_self
      rw [call, exitedCombat_early (inCombat _ _) late, ih]
      rfl
    | resetIfNotInCombat =>
      rw [call, resetIfNotInCombat_of_inCombat (inCombat _ _), ih]
      rfl
    | damageEvent t =>
      rw [call, damageEvent_of_inCombat (inCombat _ _), ih]
      rfl
    | healingEvent e d =>
      rw [call, healingEvent, record_of_inCombat (inCombat _ _)]
      refine (ih _ _).trans ?_
      rw [List.append_assoc]
      rfl
    | barrierGenerationEvent e d =>
      rw [call, barrierGenerationEvent, record_of_inCombat (inCombat _ _)]
      refine (ih _ _).trans ?_
      rw [List.append_assoc]
      rfl

theorem foldl_rest {s : PlayerStats} (outOfCombat : s.IsOutOfCombat) {rest : List Call}
    (last : ∀ t g, .enteredCombat t g ∉ rest) :
    rest.foldl call s = if .resetIfNotInCombat ∈ rest then { subGroup := s.subGroup } else s := by
  induction rest generalizing s with
  | nil => simp
  | cons c rest ih =>
    have later (t g) : Call.enteredCombat t g ∉ rest :=
      fun member => last t g (List.mem_cons_of_mem c member)
    rw [List.foldl_cons]
    cases c with
    | enteredCombat t g => exact absurd List.mem_cons_self (last t g)
    | exitedCombat t l =>
      rw [call, exitedCombat_of_out outOfCombat, ih outOfCombat later]
      simp
    | resetIfNotInCombat =>
      rw [call, resetIfNotInCombat_of_out outOfCombat, ih (.inl rfl) later]
      simp
    | damageEvent t =>
      rw [call, damageEvent_of_out outOfCombat, ih outOfCombat later]
      simp
    | healingEvent e d =>
      rw [call, healingEvent, record_of_out outOfCombat, ih outOfCombat later]
      simp
    | barrierGenerationEvent e d =>
      rw [call, barrierGenerationEvent, record_of_out outOfCombat, ih outOfCombat later]
      simp

namespace Combat

variable {f : Combat} {calls : List Call}

theorem after_eq_stats (h : f.LastOf calls) (proper : f.time ≠ 0) : after calls = f.stats := by
  obtain ⟨split, found, early, accepted, still, last⟩ := h
  rw [split, Combat.calls, after_append, List.foldl_cons, call, enteredCombat_of_out found,
    List.foldl_append,
    foldl_window proper early, List.foldl_append]
  unfold stats lastDamageEvent exitCalls
  cases exit : f.exit with
  | none => simp [still exit]
  | some e =>
    have late : ¬ e.1 ≤ f.time := UInt64.not_le.mpr (accepted e exit)
    have inCombat (l : UInt64) (events : List HealEvent) : ¬ IsOutOfCombat
        { enteredCombatTime := f.time, lastDamageEvent := l, subGroup := f.subGroup
          events := events } := by
      simp [IsOutOfCombat, proper]
    have positive : e.1 ≠ 0 := by
      intro zero
      exact late (by simp [zero])
    simp only [Option.map_some, Option.toList_some, List.foldl_cons, List.foldl_nil, call,
      exitedCombat_late (inCombat _ _) late]
    rw [foldl_rest (.inr positive) last]
    simp [List.foldl_append]

theorem isOutOfCombat_after (h : f.LastOf calls) (exited : f.exit ≠ none) (proper : f.time ≠ 0) :
    (after calls).IsOutOfCombat := by
  rw [after_eq_stats h proper]
  unfold stats
  split
  · exact .inl rfl
  · obtain ⟨e, exit⟩ := Option.ne_none_iff_exists'.mp exited
    have later := h.accepted e exit
    right
    intro zero
    simp only [exit, Option.map_some, Option.getD_some] at zero
    simp [zero] at later

theorem lastOf_enter (outOfCombat : (after calls).IsOutOfCombat) (time : UInt64)
    (subGroup : UInt16) :
    LastOf ⟨calls, time, subGroup, [], none, []⟩ (calls ++ [.enteredCombat time subGroup]) where
  split := rfl
  found := outOfCombat
  early t last member := by cases member
  accepted e exit := by cases exit
  still _ := rfl
  last t g member := by cases member

theorem LastOf.during (h : f.LastOf calls) (inside : f.exit = none) {c : Call}
    (early : ∀ t last, c = .exitedCombat t last → t ≤ f.time) :
    LastOf { f with window := f.window ++ [c] } (calls ++ [c]) where
  split := by
    rw [h.split]
    simp [Combat.calls, exitCalls, inside, h.still inside]
  found := h.found
  early t last member := by
    rcases List.mem_append.mp member with member | member
    · exact h.early t last member
    · exact early t last (List.mem_singleton.mp member).symm
  accepted := h.accepted
  still := h.still
  last := h.last

theorem LastOf.exits (h : f.LastOf calls) (inside : f.exit = none) {t last : UInt64}
    (late : f.time < t) :
    LastOf { f with exit := some (t, last) } (calls ++ [.exitedCombat t last]) where
  split := by
    rw [h.split]
    simp [Combat.calls, exitCalls, inside, h.still inside]
  found := h.found
  early := h.early
  accepted e exit := by
    cases exit
    exact late
  still impossible := by cases impossible
  last := h.last

theorem LastOf.afterwards (h : f.LastOf calls) (exited : f.exit ≠ none) {c : Call}
    (other : ∀ t g, c ≠ .enteredCombat t g) :
    LastOf { f with rest := f.rest ++ [c] } (calls ++ [c]) where
  split := by
    rw [h.split]
    simp [Combat.calls, exitCalls]
  found := h.found
  early := h.early
  accepted := h.accepted
  still inside := absurd inside exited
  last t g member := by
    rcases List.mem_append.mp member with member | member
    · exact h.last t g member
    · exact other t g (List.mem_singleton.mp member).symm

theorem LastOf.mem (h : f.LastOf calls) : .enteredCombat f.time f.subGroup ∈ calls := by
  rw [h.split]
  simp [Combat.calls]

theorem after_eq_empty (none : ∀ t g, .enteredCombat t g ∉ calls) : after calls = {} := by
  rw [after, foldl_rest (.inl rfl) none]
  split <;> rfl

theorem LastOf.step (h : f.LastOf calls) {c : Call}
    (same : f.exit ≠ none → ∀ t g, c ≠ .enteredCombat t g) :
    ∃ f' : Combat, f'.LastOf (calls ++ [c]) ∧ f'.time = f.time := by
  by_cases inside : f.exit = none
  · by_cases exits : ∃ t last, c = .exitedCombat t last ∧ f.time < t
    · obtain ⟨t, last, rfl, late⟩ := exits
      exact ⟨_, h.exits inside late, rfl⟩
    · refine ⟨_, h.during inside ?_, rfl⟩
      intro t last same
      exact UInt64.not_lt.mp fun late => exits ⟨t, last, same, late⟩
  · exact ⟨_, h.afterwards inside (same inside), rfl⟩

theorem exists_lastOf (proper : ∀ t g, .enteredCombat t g ∈ calls → t ≠ 0) :
    (∀ t g, .enteredCombat t g ∉ calls) ∨ ∃ f : Combat, f.LastOf calls := by
  induction calls using List.reverseRecOn with
  | nil => simp
  | append_singleton calls c ih =>
    have earlier (t g) (member : Call.enteredCombat t g ∈ calls) : t ≠ 0 :=
      proper t g (List.mem_append_left [c] member)
    rcases ih earlier with none | ⟨f, h⟩
    · by_cases enters : ∃ t g, c = .enteredCombat t g
      · obtain ⟨t, g, rfl⟩ := enters
        exact .inr ⟨_, lastOf_enter (.inl (by rw [after_eq_empty none])) t g⟩
      · left
        intro t g member
        rcases List.mem_append.mp member with member | member
        · exact none t g member
        · exact enters ⟨t, g, (List.mem_singleton.mp member).symm⟩
    · right
      by_cases again : f.exit ≠ none ∧ ∃ t g, c = .enteredCombat t g
      · obtain ⟨exited, t, g, rfl⟩ := again
        exact ⟨_, lastOf_enter (isOutOfCombat_after h exited (earlier _ _ h.mem)) t g⟩
      · obtain ⟨f', h', -⟩ := h.step fun exited t g enters => again ⟨exited, t, g, enters⟩
        exact ⟨f', h'⟩

theorem enter_cases (out : (after calls).IsOutOfCombat) (t : UInt64) (g : UInt16) :
    (after (calls ++ [.enteredCombat t g])).IsOutOfCombat ∧
        (after (calls ++ [.enteredCombat t g])).events = [] ∨
      ∃ f : Combat, f.LastOf (calls ++ [.enteredCombat t g]) ∧ f.time ≠ 0 := by
  by_cases proper : t = 0
  · left
    rw [after_append, List.foldl_cons, call, enteredCombat_of_out out]
    exact ⟨.inl proper, rfl⟩
  · exact .inr ⟨_, lastOf_enter out t g, proper⟩

theorem lastOf_or_empty (calls : List Call) :
    (after calls).IsOutOfCombat ∧ (after calls).events = [] ∨
      ∃ f : Combat, f.LastOf calls ∧ f.time ≠ 0 := by
  induction calls using List.reverseRecOn with
  | nil => exact .inl ⟨.inl rfl, rfl⟩
  | append_singleton calls c ih =>
    by_cases enters : ∃ t g, c = .enteredCombat t g
    · obtain ⟨t, g, rfl⟩ := enters
      rcases ih with ⟨out, -⟩ | ⟨f, h, proper⟩
      · exact enter_cases out t g
      · by_cases inside : f.exit = none
        · obtain ⟨f', h', same⟩ := h.step (c := .enteredCombat t g) (absurd inside)
          exact .inr ⟨f', h', same ▸ proper⟩
        · exact enter_cases (isOutOfCombat_after h inside proper) t g
    · have other (t g) : c ≠ .enteredCombat t g := fun e => enters ⟨t, g, e⟩
      rcases ih with ⟨out, empty⟩ | ⟨f, h, proper⟩
      · left
        rw [after_append, foldl_rest out (by simpa [eq_comm] using other)]
        split
        · exact ⟨.inl rfl, rfl⟩
        · exact ⟨out, empty⟩
      · obtain ⟨f', h', same⟩ := h.step fun _ => other
        exact .inr ⟨f', h', same ▸ proper⟩

end Combat

/-- The state is that of the last combat. -/
theorem session_semantics (calls : List Call)
    (proper : ∀ t g, .enteredCombat t g ∈ calls → t ≠ 0) :
    let s := after calls
    (s.enteredCombatTime = 0 →
      s.exitedCombatTime = 0 ∧ s.lastDamageEvent = 0 ∧ s.events = []) ∧
    (s.exitedCombatTime ≠ 0 → s.enteredCombatTime < s.exitedCombatTime) ∧
    ((∀ t g, .enteredCombat t g ∉ calls) ∧ s = {} ∨ ∃ f : Combat, f.LastOf calls) ∧
    ∀ f : Combat, f.LastOf calls → s = f.stats := by
  have stats (f : Combat) (h : f.LastOf calls) : after calls = f.stats :=
    Combat.after_eq_stats h (proper _ _ h.mem)
  rcases Combat.exists_lastOf proper with none | ⟨f, h⟩
  · have empty := Combat.after_eq_empty none
    refine ⟨?_, ?_, .inl ⟨none, empty⟩, stats⟩
    · rw [empty]
      exact fun _ => ⟨rfl, rfl, rfl⟩
    · rw [empty]
      exact fun exited => absurd rfl exited
  · refine ⟨?_, ?_, .inr ⟨f, h⟩, stats⟩
    · rw [stats f h, Combat.stats]
      split
      · exact fun _ => ⟨rfl, rfl, rfl⟩
      · exact fun zero => absurd zero (proper _ _ h.mem)
    · rw [stats f h, Combat.stats]
      split
      · exact fun exited => absurd rfl exited
      · intro exited
        cases exit : f.exit with
        | none => simp [exit] at exited
        | some e => exact h.accepted e exit

theorem session_semantics_ended :
    after [.enteredCombat 5 2, .damageEvent 8, .enteredCombat 6 3, .exitedCombat 9 4,
      .damageEvent 10] = ⟨5, 9, 8, 2, []⟩ := by
  have lastOf : Combat.LastOf ⟨[], 5, 2, [.damageEvent 8, .enteredCombat 6 3], some (9, 4),
      [.damageEvent 10]⟩
      [.enteredCombat 5 2, .damageEvent 8, .enteredCombat 6 3, .exitedCombat 9 4,
        .damageEvent 10] := by
    constructor
    · rfl
    · exact .inl rfl
    · simp
    · simp
    · simp
    · simp
  have proper (t : UInt64) (g : UInt16) (member : .enteredCombat t g ∈
      [Call.enteredCombat 5 2, .damageEvent 8, .enteredCombat 6 3, .exitedCombat 9 4,
        .damageEvent 10]) : t ≠ 0 := by
    simp only [List.mem_cons, Call.enteredCombat.injEq, reduceCtorEq, List.not_mem_nil, or_false,
      false_or] at member
    rcases member with ⟨rfl, -⟩ | ⟨rfl, -⟩ <;> decide
  exact (session_semantics _ proper).2.2.2 _ lastOf

end ArcdpsHealing.Processor.PlayerStats
