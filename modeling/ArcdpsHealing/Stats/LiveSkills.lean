import ArcdpsHealing.Lib.Word
import ArcdpsHealing.Stats.Queries

/-! A collected snapshot between calls of the handlers, which share their skill
table with it. -/

namespace ArcdpsHealing.Stats

open Arcdps Lib Processor Settings

structure AreaEnums extends Enums where
  sqCombatStart : UInt8
  extension : UInt8

def AreaEnums.documented : AreaEnums :=
  { Enums.documented with sqCombatStart := 9, extension := 40 }

variable (c : AreaEnums)

namespace SkillTable

variable (t : SkillTable)

def nameSkill (e : CbtEvent) (skillname : Option CString) : SkillTable :=
  if e.skillid ≠ 0 then
    match skillname with
    | some name => t.registerSkillName e.skillid name
    | none => t
  else t

/-- What `AreaCombat` registers. -/
def areaCombat (event : CbtEvent) (skillname : Option CString) : SkillTable :=
  let e := preProcessEvent c.toEnums event false
  if e.isStatechange = c.sqCombatStart then t
  else if e.isStatechange = c.extension then t
  else if e.isStatechange = c.enterCombat then t
  else
    let t := t.nameSkill e skillname
    match getEventType c.toEnums e false with
    | .damage => t.registerDamagingSkill e.skillid
    | _ => t

/-- What `LocalCombat` registers. -/
def localCombat (event : CbtEvent) (skillname : Option CString) : SkillTable :=
  let e := preProcessEvent c.toEnums event true
  if e.isStatechange = c.enterCombat then t
  else if e.isStatechange = c.exitCombat then t
  else t.nameSkill e skillname

/-- `PeerCombat` gets no names. -/
def handle (skillname : Option CString) : HandlerCall → SkillTable
  | .areaAgent _ _ _ => t
  | .areaCombat event _ _ => t.areaCombat c event skillname
  | .localCombat (.agent _ _ _) => t
  | .localCombat (.combat x) => t.localCombat c x.event skillname
  | .peerCombat _ _ => t

structure Extends (t t' : SkillTable) : Prop where
  indirect : ∀ id, t.isSkillIndirectHealing id = true → t'.isSkillIndirectHealing id = true
  name : ∀ id name, t.getSkillName id = some name → t'.getSkillName id = some name

theorem Extends.refl (t : SkillTable) : Extends t t := ⟨fun _ h => h, fun _ _ h => h⟩

theorem Extends.trans {t t' t'' : SkillTable} (h : Extends t t') (h' : Extends t' t'') :
    Extends t t'' :=
  ⟨fun id i => h'.indirect id (h.indirect id i), fun id n i => h'.name id n (h.name id n i)⟩

theorem extends_registerSkillName (skillId : UInt32) (name : CString) :
    Extends t (t.registerSkillName skillId name) := by
  refine ⟨fun _ h => h, fun id known here => ?_⟩
  unfold getSkillName registerSkillName at *
  rw [Reconcile.getElem?_insertIfNew_eq_or, here]
  rfl

theorem extends_registerDamagingSkill (skillId : UInt32) :
    Extends t (t.registerDamagingSkill skillId) := by
  unfold registerDamagingSkill
  split
  · exact .refl t
  · refine ⟨fun id here => ?_, fun _ _ h => h⟩
    unfold isSkillIndirectHealing at here ⊢
    split at here
    · exact Bool.noConfusion here
    split at here
    · exact Bool.noConfusion here
    · rename_i known healsOnly
      rw [if_neg known, if_neg healsOnly]
      have bit := of_decide_eq_true here
      apply decide_eq_true
      dsimp only
      split
      · exact and_ne_zero_of_or _ bit
      · exact bit

theorem extends_nameSkill (e : CbtEvent) (skillname : Option CString) :
    Extends t (t.nameSkill e skillname) := by
  unfold nameSkill
  split
  · cases skillname with
    | none => exact .refl t
    | some name => exact t.extends_registerSkillName e.skillid name
  · exact .refl t

theorem extends_areaCombat (event : CbtEvent) (skillname : Option CString) :
    Extends t (t.areaCombat c event skillname) := by
  have named := t.extends_nameSkill (preProcessEvent c.toEnums event false) skillname
  unfold areaCombat
  dsimp only
  repeat' split
  iterate 3 exact .refl t
  · exact named.trans (extends_registerDamagingSkill _ _)
  · exact named

theorem extends_localCombat (event : CbtEvent) (skillname : Option CString) :
    Extends t (t.localCombat c event skillname) := by
  unfold localCombat
  dsimp only
  split
  · exact .refl t
  split
  · exact .refl t
  · exact t.extends_nameSkill _ skillname

theorem extends_handle (skillname : Option CString) (x : HandlerCall) :
    Extends t (t.handle c skillname x) := by
  cases x with
  | areaAgent env source destination => exact .refl t
  | areaCombat event source destination => exact t.extends_areaCombat c event skillname
  | localCombat x =>
    cases x with
    | agent env source destination => exact .refl t
    | combat x => exact t.extends_localCombat c x.event skillname
  | peerCombat event peerInstanceId => exact .refl t

end SkillTable

def named (name : CString) : HealedAgent := ⟨0, name, [], 0, false, false, 0, 0xFFFFFFFF⟩

section GetState

variable (p : EventProcessor) (env : Ambient)

/-- A copy of a player's statistics and of all agents. -/
def collect (stats : PlayerStats) : HealingStats :=
  { stats with collectionTime := env.time.toUInt64, agents := p.agentTable.agents }

def stateEntry (uniqueId : UInt64) (stats : PlayerStats) (unmapped : CString) :
    HealedAgent × HealingStats :=
  ((p.agentTable.getAgentData uniqueId).getD (named unmapped), collect p env stats)

/-- `GetState`. A peer with the id of self is skipped. -/
def getState (selfUniqueId : UInt64) :
    UInt64 × Std.ExtTreeMap UInt64 (HealedAgent × HealingStats) :=
  let self := if selfUniqueId = 0 then p.selfUniqueId else selfUniqueId
  let peers := p.peerStates.map fun uniqueId stats =>
    stateEntry p env uniqueId stats (utf8 "peer (unmapped)")
  (self, peers.insert self (stateEntry p env self p.localState (utf8 "local (unmapped)")))

def collected (selfUniqueId uniqueId : UInt64)
    (options : HealWindowOptions) (debugMode : Bool) : Option AggregatedStats :=
  ((getState p env selfUniqueId).2[uniqueId]?).map fun entry => ⟨entry.2, options, debugMode⟩

end GetState

/-- What happens after a snapshot: it is queried, or a handler is called. -/
inductive Action
  | query (q : Query)
  | call (x : HandlerCall) (skillname : Option CString)

structure Session where
  processor : EventProcessor
  skills : SkillTable
  cache : AggregatedStats.Cache := {}

namespace Session

variable (x : AggregatedStats)

def ask (s : Session) (q : Query) : Answer := (s.cache.ask x s.skills q).1

def act (s : Session) : Action → Session
  | .query q => { s with cache := (s.cache.ask x s.skills q).2 }
  | .call call skillname =>
    { s with processor := s.processor.handle c.toEnums call
             skills := s.skills.handle c skillname call }

def after (p : EventProcessor) (skills : SkillTable) (actions : List Action) : Session :=
  actions.foldl (act c x) ⟨p, skills, {}⟩

variable (p : EventProcessor) (skills : SkillTable)

theorem after_concat (actions : List Action) (action : Action) :
    after c x p skills (actions ++ [action]) = (after c x p skills actions).act c x action :=
  List.foldl_concat _ _ _ _

def Live (actions : List Action) (t : SkillTable) : Prop :=
  ∃ before, before <+: actions ∧ (after c x p skills before).skills = t

theorem live_after (actions : List Action) :
    Live c x p skills actions (after c x p skills actions).skills :=
  ⟨actions, List.prefix_rfl, rfl⟩

theorem Live.concat {actions : List Action} {t : SkillTable}
    (live : Live c x p skills actions t) (action : Action) :
    Live c x p skills (actions ++ [action]) t := by
  obtain ⟨before, earlier, same⟩ := live
  exact ⟨before, earlier.trans (List.prefix_append _ _), same⟩

theorem computed_after (actions : List Action) :
    AggregatedStats.Computed x (Live c x p skills actions) (after c x p skills actions).cache := by
  induction actions using List.reverseRecOn with
  | nil => exact .empty
  | append_singleton actions action ih =>
    have kept := ih.mono fun t live => live.concat c x p skills action
    rw [after_concat]
    cases action with
    | query q => exact (kept.ask ((live_after c x p skills actions).concat c x p skills _) q).2
    | call call skillname => exact kept

theorem ask_after (actions : List Action) (q : Query) :
    ∃ t, Live c x p skills actions t ∧ (after c x p skills actions).ask x q = x.answer t q :=
  ((computed_after c x p skills actions).ask (live_after c x p skills actions) q).1

theorem extends_append (before later : List Action) :
    (after c x p skills before).skills.Extends (after c x p skills (before ++ later)).skills := by
  induction later using List.reverseRecOn with
  | nil =>
    rw [List.append_nil]
    exact .refl _
  | append_singleton later action ih =>
    rw [← List.append_assoc, after_concat]
    cases action with
    | query q => exact ih
    | call call skillname => exact ih.trans (SkillTable.extends_handle c _ skillname call)

theorem keeps_of_live {actions : List Action}
    (keeps : x.Keeps skills (after c x p skills actions).skills) {t : SkillTable}
    (live : Live c x p skills actions t) : x.Keeps skills t := by
  obtain ⟨before, ⟨later, rfl⟩, rfl⟩ := live
  have early := extends_append c x p skills [] before
  have late := extends_append c x p skills before later
  intro e member
  obtain ⟨kind, name⟩ := keeps e member
  constructor
  · rw [Bool.eq_iff_iff]
    exact ⟨fun now => kind ▸ late.indirect _ now, early.indirect _⟩
  · apply Option.ext
    intro n
    exact ⟨fun now => name ▸ late.name _ n now, early.name _ n⟩

theorem collected_self {selfUniqueId : UInt64} (given : selfUniqueId ≠ 0) (env : Ambient)
    (options : HealWindowOptions) (debugMode : Bool) :
    collected p env selfUniqueId selfUniqueId options debugMode =
      some ⟨collect p env p.localState, options, debugMode⟩ := by
  simp [collected, getState, stateEntry, given]

theorem answers_stand {env : Ambient} {selfUniqueId uniqueId : UInt64}
    {options : HealWindowOptions} {debugMode : Bool}
    (_built : collected p env selfUniqueId uniqueId options debugMode = some x)
    (actions : List Action) (q : Query) :
    let now := after c x p skills actions
    (∃ before, before <+: actions ∧
        now.ask x q = x.answer (after c x p skills before).skills q) ∧
      (x.IgnoresSkills q ∨ x.Keeps skills now.skills → now.ask x q = x.answer skills q) := by
  intro now
  obtain ⟨t, live, same⟩ := ask_after c x p skills actions q
  refine ⟨?_, ?_⟩
  · obtain ⟨before, earlier, rfl⟩ := live
    exact ⟨before, earlier, same⟩
  · rintro (ignores | keeps)
    · exact same.trans (x.answer_ignores ignores skills t)
    · exact same.trans (x.answer_keeps (keeps_of_live c x p skills keeps live) q)

def healer : EventProcessor := handled .documented
  ([fightEvent 10 0 1 0, fightEvent 30 1 0 12].map fun e =>
    .localCombat (.combat ⟨e, ⟨some [65], 77, 1, 0, 1, 1⟩, ⟨some [67], 88, 1, 0, 0, 1⟩, {}⟩))

def damage : Action := .call (.areaCombat (fightEvent 40 1 0 7) ⟨some [65], 77, 1, 0, 1, 1⟩
  ⟨some [67], 88, 1, 0, 0, 1⟩) none

def heal : Action := .call (.localCombat (.combat ⟨fightEvent 45 1 0 30,
  ⟨some [65], 77, 1, 0, 1, 1⟩, ⟨some [67], 88, 1, 0, 0, 1⟩, {}⟩)) (some [83])

theorem answers_stand_healer :
    let x : AggregatedStats := ⟨collect healer { time := 50 } healer.localState, {}, false⟩
    (after .documented x healer {} [.query .getTotal, damage, heal]).ask x .getGroupFilterTotals =
      x.answer {} .getGroupFilterTotals := by
  have given : (77 : UInt64) ≠ 0 := by decide
  exact (answers_stand .documented _ healer {}
    (collected_self healer given { time := 50 } {} false) [.query .getTotal, damage, heal]
    .getGroupFilterTotals).2 (.inl trivial)

/-- Skill 100 does damage before the view by skills is first asked for. -/
theorem answers_change :
    let x : AggregatedStats := ⟨collect healer { time := 50 } healer.localState, {}, false⟩
    collected healer { time := 50 } 77 77 {} false = some x ∧
      ∃ v v', (after .documented x healer {} []).ask x (.getStats DataSource.skills) = .vector v ∧
        v.entries.map (·.id) = [100] ∧
        (after .documented x healer {} [damage]).ask x (.getStats DataSource.skills) = .vector v' ∧
        v'.entries.map (·.id) = [0] := by
  intro x
  have built := collected_self healer (by decide : (77 : UInt64) ≠ 0) { time := 50 } {} false
  exact ⟨built, _, _, rfl, by decide, rfl, by decide⟩

end Session

end ArcdpsHealing.Stats
