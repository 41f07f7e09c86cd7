import ArcdpsHealing.Processor.BudgetMode
import ArcdpsHealing.Processor.Recorded

namespace ArcdpsHealing.Processor

open Arcdps PlayerStats EventProcessor

def LocalCallback.registration : LocalCallback → Option UInt16
  | .agent _ source destination =>
    if source.elite = 0 ∧ source.prof ≠ 0 ∧ destination.self ≠ 0 then
      some destination.id.toUInt16
    else none
  | .combat _ => none

def registered (run : List LocalCallback) : Option UInt16 :=
  (run.filterMap LocalCallback.registration).getLast?

variable (c : Enums)

def EventProcessor.localCallback (p : EventProcessor) : LocalCallback → EventProcessor
  | .agent env source destination => p.localAgent env source destination
  | .combat x => (p.localCombat c x.env x.event x.source x.destination).processor

def processed (run : List LocalCallback) : EventProcessor := run.foldl (localCallback c) {}

def Adds (before : List LocalCallback) (x : LocalCallback) (h : HealEvent) : Prop :=
  (processed c (before ++ [x])).localState.events =
    (processed c before).localState.events ++ [h]

instance (before : List LocalCallback) (x : LocalCallback) (h : HealEvent) :
    Decidable (Adds c before x h) :=
  inferInstanceAs (Decidable (_ = _))

def OwnEvent (before : List LocalCallback) (x : Callback) : Prop :=
  x.source.self ≠ 0 ∨ registered before = some x.event.srcMasterInstid

theorem processed_concat (run : List LocalCallback) (x : LocalCallback) :
    processed c (run ++ [x]) = (processed c run).localCallback c x := by
  simp [processed]

theorem registered_concat (run : List LocalCallback) (x : LocalCallback) :
    registered (run ++ [x]) = x.registration.or (registered run) := by
  unfold registered
  rw [List.filterMap_append, List.getLast?_append]
  cases stored : x.registration with
  | none => simp [stored]
  | some i => simp [stored]

theorem selfInstanceId_localAgent (p : EventProcessor) (env : Ambient) (source destination : Ag) :
    (p.localAgent env source destination).selfInstanceId =
      ((LocalCallback.agent env source destination).registration.map UInt16.toUInt32).getD
        p.selfInstanceId := by
  obtain ⟨table, uniqueId, eq⟩ := p.localAgent_eq env source destination
  rw [eq, LocalCallback.registration]
  dsimp only
  split <;> rfl

theorem selfInstanceId_processed (run : List LocalCallback) :
    (processed c run).selfInstanceId = ((registered run).map UInt16.toUInt32).getD 0xFFFFFFFF := by
  -- Until there is a registration, the sentinel stays.
  induction run using List.reverseRecOn with
  | nil => rfl
  | append_singleton run x ih =>
    rw [processed_concat, registered_concat]
    cases x with
    | agent env source destination =>
      change (localAgent env _ source destination).selfInstanceId = _
      rw [selfInstanceId_localAgent, ih]
      cases (LocalCallback.agent env source destination).registration <;> rfl
    | combat x =>
      change (localCombat c x.env _ x.event x.source x.destination).processor.selfInstanceId = _
      rw [selfInstanceId_localCombat, ih]
      rfl

theorem events_localAgent (p : EventProcessor) (env : Ambient) (source destination : Ag) :
    (p.localAgent env source destination).localState.events = p.localState.events := by
  obtain ⟨table, uniqueId, eq⟩ := p.localAgent_eq env source destination
  rw [eq]
  dsimp only
  split
  case isTrue => exact events_exitedCombat _ _ _
  case isFalse => rfl

variable {c} {before : List LocalCallback} {x : Callback} {h : HealEvent}

theorem not_adds_agent {env : Ambient} {source destination : Ag} :
    ¬ Adds c before (.agent env source destination) h := by
  intro adds
  unfold Adds at adds
  rw [processed_concat] at adds
  have same := events_localAgent (processed c before) env source destination
  simp [localCallback, same] at adds

theorem adds_combat_iff : Adds c before (.combat x) h ↔
    ¬ (processed c before).localState.IsOutOfCombat ∧ Heals c x.event ∧
      (x.source.self ≠ 0 ∨ x.event.srcMasterInstid = (registered before).getD 0xFFFF) ∧
      healEvent (preProcessEvent c x.event true) x.destination.id (x.event.isShields ≠ 0) = h := by
  have narrowed :
      (processed c before).selfInstanceId.toUInt16 = (registered before).getD 0xFFFF := by
    rw [selfInstanceId_processed]
    cases registered before with
    | none => rfl
    | some i => simp
  unfold Adds
  rw [processed_concat, ← narrowed]
  exact events_localCombat_iff

variable (c)

def Attributed (run : List LocalCallback) : Prop :=
  ∀ before x after h, run = before ++ .combat x :: after → Adds c before (.combat x) h →
    OwnEvent before x

/-- Healing by another agent, with the instance id that the sentinel is narrowed
to for its master, finds self in combat and not registered. -/
structure Mistaken (before : List LocalCallback) (x : Callback) : Prop where
  unregistered : registered before = none
  inCombat : ¬ (processed c before).localState.IsOutOfCombat
  heals : Heals c x.event
  other : x.source.self = 0
  master : x.event.srcMasterInstid = 0xFFFF

theorem ownEvent_iff_not_mistaken (adds : Adds c before (.combat x) h) :
    OwnEvent before x ↔ ¬ Mistaken c before x := by
  obtain ⟨inCombat, heals, source, -⟩ := adds_combat_iff.mp adds
  unfold OwnEvent
  constructor
  · rintro (self | known) mistaken
    · exact self mistaken.other
    · cases known.symm.trans mistaken.unregistered
  · intro right
    by_cases self : x.source.self = 0
    · have master := source.resolve_left (not_not.mpr self)
      cases known : registered before with
      | none =>
        rw [known] at master
        exact absurd ⟨known, inCombat, heals, self, master⟩ right
      | some i =>
        rw [known] at master
        exact .inr (congrArg some master.symm)
    · exact .inl self

theorem events_localCallback_cases (p : EventProcessor) (x : LocalCallback) :
    (p.localCallback c x).localState.events = p.localState.events ∨
      (p.localCallback c x).localState.events = [] ∨
      ∃ h, (p.localCallback c x).localState.events = p.localState.events ++ [h] := by
  cases x with
  | agent env source destination => exact .inl (events_localAgent p env source destination)
  | combat x =>
    change (localCombat c x.env p x.event x.source x.destination).processor.localState.events = _ ∨
      (localCombat c x.env p x.event x.source x.destination).processor.localState.events = _ ∨
      ∃ h, (localCombat c x.env p x.event x.source x.destination).processor.localState.events = _
    rw [localState_localCombat]
    cases localCall c p (preProcessEvent c x.event true) x.source x.destination with
    | none => exact .inl rfl
    | some k =>
      change (p.localState.call k).events = _ ∨ (p.localState.call k).events = _ ∨
        ∃ h, (p.localState.call k).events = _
      obtain ⟨-, same | cleared⟩ | ⟨h, -, added⟩ := events_call_cases p.localState k
      · exact .inl same
      · exact .inr (.inl cleared)
      · split at added
        · exact .inl added
        · exact .inr (.inr ⟨h, added⟩)

theorem exists_adds {run : List LocalCallback} {k : Nat} {h : HealEvent}
    (kept : (processed c run).localState.events[k]? = some h) :
    ∃ before x after, run = before ++ .combat x :: after ∧
      (processed c before).localState.events.length = k ∧ Adds c before (.combat x) h := by
  induction run using List.reverseRecOn with
  | nil => nomatch kept
  | append_singleton run y ih =>
    have earlier (old : (processed c run).localState.events[k]? = some h) :
        ∃ before x after, run ++ [y] = before ++ .combat x :: after ∧
          (processed c before).localState.events.length = k ∧ Adds c before (.combat x) h := by
      obtain ⟨before, x, after, rfl, length, adds⟩ := ih old
      exact ⟨before, x, after ++ [y], by simp, length, adds⟩
    have step := events_localCallback_cases c (processed c run) y
    rw [← processed_concat] at step
    obtain same | cleared | ⟨h', added⟩ := step
    · exact earlier (same ▸ kept)
    · rw [cleared] at kept
      nomatch kept
    · rw [added, List.getElem?_append] at kept
      split at kept
      case isTrue => exact earlier kept
      case isFalse late =>
        rw [List.getElem?_singleton] at kept
        split at kept
        case isFalse => nomatch kept
        obtain rfl := Option.some.inj kept
        cases y with
        | agent => exact absurd added not_adds_agent
        | combat x => exact ⟨run, x, [], rfl, by omega, added⟩

/-- The local statistics are self's own in all runs in which nobody meets the sentinel. -/
theorem attributed_iff (run : List LocalCallback) :
    (∀ k h, (processed c run).localState.events[k]? = some h →
      ∃ before x after, run = before ++ .combat x :: after ∧
        (processed c before).localState.events.length = k ∧ Adds c before (.combat x) h) ∧
      (Attributed c run ↔
        ∀ before x after, run = before ++ .combat x :: after → ¬ Mistaken c before x) := by
  refine ⟨fun k h => exists_adds c, fun own before x after split mistaken => ?_,
    fun right before x after h split adds => ?_⟩
  · have adds := adds_combat_iff.mpr ⟨mistaken.inCombat, mistaken.heals,
      .inr (by rw [mistaken.master, mistaken.unregistered]; rfl), rfl⟩
    exact (ownEvent_iff_not_mistaken c adds).mp (own before x after _ split adds) mistaken
  · exact (ownEvent_iff_not_mistaken c adds).mpr (right before x after split)

/-- Self enters combat unregistered, then somebody else's minion heals. -/
theorem attributed_fails_unregistered :
    ¬ Attributed .documented
      [.combat ⟨fightEvent 10 0 1 0, ⟨some [65], 77, 1, 0, 1, 1⟩, ⟨none, 1, 1, 0, 0, 1⟩, {}⟩,
        .combat ⟨{ fightEvent 30 1 0 12 with srcInstid := 6, srcMasterInstid := 0xFFFF },
          ⟨some [66], 99, 1, 0, 0, 2⟩, ⟨some [67], 88, 1, 0, 0, 1⟩, {}⟩] := by
  intro own
  obtain self | known := own [_] _ [] ⟨30, 12, 88, 100, false, false⟩ rfl (by decide)
  · exact self rfl
  · exact absurd known (by decide)

end ArcdpsHealing.Processor
