import ArcdpsHealing.Processor.AgentTable
import Mathlib.Data.List.Induction

namespace ArcdpsHealing.Processor

open Arcdps

theorem getLast?_filterMap_concat {α β : Type} (f : α → Option β) (xs : List α) (x : α) (d : β) :
    ((xs ++ [x]).filterMap f).getLast?.getD d =
      (f x).getD ((xs.filterMap f).getLast?.getD d) := by
  rw [List.filterMap_append]
  cases given : f x with
  | none => simp [given]
  | some y => simp [given]

theorem getLast?_filter_eq_some_iff {α : Type} {p : α → Bool} {xs : List α} {x : α} :
    (xs.filter p).getLast? = some x ↔
      p x ∧ ∃ before after, xs = before ++ x :: after ∧ ∀ y ∈ after, p y = false := by
  rw [List.getLast?_filter, List.find?_eq_some_iff_append]
  constructor
  · rintro ⟨here, after, before, split, none⟩
    refine ⟨here, before.reverse, after.reverse, ?_, fun y mem => ?_⟩
    · rw [← List.reverse_reverse xs, split]
      simp
    · simpa using none y (List.mem_reverse.mp mem)
  · rintro ⟨here, before, after, rfl, none⟩
    refine ⟨here, after.reverse, before.reverse, by simp, fun y mem => ?_⟩
    simpa using none y (List.mem_reverse.mp mem)

theorem Agent.update_of_same {a : Agent} {known : HealedAgent} (same : ¬ a.Differs known) :
    a.update known = known := by
  obtain ⟨i, name, accountName, subgroup, isMinion, isPlayer, profession, elite⟩ := known
  simp only [Agent.Differs, not_or, not_exists, not_and, not_not] at same
  obtain ⟨name, account, instance', subgroup, minion, player, profession, elite⟩ := same
  have given {α : Type} (field : Option α) (old : α) (h : ∀ x ∈ field, old = x) :
      field.getD old = old := by
    cases field with
    | none => rfl
    | some x => exact (h x rfl).symm
  simp only [Agent.update, HealedAgent.mk.injEq]
  exact ⟨instance'.symm, name.symm, given _ _ account, given _ _ subgroup, given _ _ minion,
    given _ _ player, profession.symm, elite.symm⟩

namespace AgentTable

def ofCalls (calls : List Agent) : AgentTable := calls.foldl addAgent empty

theorem ofCalls_concat (calls : List Agent) (a : Agent) :
    ofCalls (calls ++ [a]) = (ofCalls calls).addAgent a := by
  simp [ofCalls]

theorem getAgentData_addAgent (t : AgentTable) (a : Agent) (u : UInt64) :
    (t.addAgent a).getAgentData u =
      if a.uniqueId = u then some ((t.getAgentData u).elim a.entry a.update)
      else t.getAgentData u := by
  unfold addAgent getAgentData
  by_cases here : a.uniqueId = u
  · subst here
    rw [if_pos rfl]
    cases known : t.agents[a.uniqueId]? with
    | none => simp
    | some agent =>
      dsimp only
      split
      case isTrue => simp
      case isFalse same => simp [known, Agent.update_of_same same]
  · rw [if_neg here]
    cases t.agents[a.uniqueId]? with
    | none => simp [Std.ExtTreeMap.getElem?_insert, here]
    | some agent =>
      dsimp only
      split
      case isTrue => simp [Std.ExtTreeMap.getElem?_insert, here]
      case isFalse => rfl

def summary (mine : List Agent) : Option HealedAgent :=
  mine.getLast?.map fun last => {
    instanceId := last.instanceId
    name := last.agentName
    accountName := (mine.filterMap (·.accountName)).getLast?.getD []
    subgroup := (mine.filterMap (·.subgroup)).getLast?.getD 0
    isMinion := (mine.filterMap (·.isMinion)).getLast?.getD false
    isPlayer := (mine.filterMap (·.isPlayer)).getLast?.getD false
    profession := last.profession
    elite := last.elite }

theorem summary_concat (mine : List Agent) (a : Agent) :
    summary (mine ++ [a]) = some ((summary mine).elim a.entry a.update) := by
  unfold summary
  simp only [getLast?_filterMap_concat, List.getLast?_append, List.getLast?_singleton,
    Option.some_or, Option.map_some]
  cases last : mine.getLast? with
  | none =>
    rw [List.getLast?_eq_none_iff] at last
    subst last
    rfl
  | some b => rfl

theorem getAgentData_ofCalls (calls : List Agent) (u : UInt64) :
    (ofCalls calls).getAgentData u = summary (calls.filter (·.uniqueId = u)) := by
  induction calls using List.reverseRecOn with
  | nil => simp [ofCalls, empty, getAgentData, summary]
  | append_singleton calls a ih =>
    rw [ofCalls_concat, getAgentData_addAgent, ih, List.filter_append]
    by_cases here : a.uniqueId = u
    · rw [if_pos here, List.filter_singleton, decide_eq_true here, cond_true, summary_concat]
    · simp [here]

theorem instanceIds_ofCalls (calls : List Agent) (i : UInt16) :
    (ofCalls calls).instanceIds[i]? =
      (calls.filter (·.instanceId = i)).getLast?.map (·.uniqueId) := by
  induction calls using List.reverseRecOn with
  | nil => simp [ofCalls, empty]
  | append_singleton calls a ih =>
    rw [ofCalls_concat, addAgent, Std.ExtTreeMap.getElem?_insert, ih, List.filter_append]
    by_cases here : a.instanceId = i
    · simp [here]
    · simp [here]

theorem known_of_indexed {calls : List Agent} {i : UInt16} {u : UInt64}
    (indexed : (ofCalls calls).instanceIds[i]? = some u) :
    ∃ known, (ofCalls calls).getAgentData u = some known := by
  rw [instanceIds_ofCalls] at indexed
  obtain ⟨a, last, rfl⟩ := Option.map_eq_some_iff.mp indexed
  have mem := List.mem_filter.mp (List.mem_of_getLast? last)
  have mine : a ∈ calls.filter (·.uniqueId = a.uniqueId) :=
    List.mem_filter.mpr ⟨mem.1, decide_eq_true rfl⟩
  rw [getAgentData_ofCalls, summary]
  cases found : (calls.filter (·.uniqueId = a.uniqueId)).getLast? with
  | none =>
    rw [List.getLast?_eq_none_iff] at found
    rw [found] at mine
    exact absurd mine List.not_mem_nil
  | some b => exact ⟨_, rfl⟩

theorem getUniqueId_true (calls : List Agent) (i : UInt16) :
    (ofCalls calls).getUniqueId i true =
      (calls.filter (·.instanceId = i)).getLast?.map (·.uniqueId) := by
  rw [← instanceIds_ofCalls]
  unfold getUniqueId
  cases indexed : (ofCalls calls).instanceIds[i]? with
  | none => rfl
  | some u =>
    obtain ⟨known, found⟩ := known_of_indexed indexed
    rw [getAgentData] at found
    simp [found]

theorem getUniqueId_false (t : AgentTable) (i : UInt16) :
    t.getUniqueId i false =
      (t.getUniqueId i true).filter fun u => (t.getAgentData u).any (·.isPlayer) := by
  unfold getUniqueId getAgentData
  cases t.instanceIds[i]? with
  | none => rfl
  | some u =>
    cases found : t.agents[u]? with
    | none => simp [found]
    | some agent => cases player : agent.isPlayer <;> simp [Option.filter, found, player]

/-- The table is last-write-wins, field by field and instance id by instance id. -/
theorem lookups_last_write_wins (calls : List Agent) (u : UInt64) (i : UInt16) :
    let t := calls.foldl addAgent empty
    let mine := calls.filter (·.uniqueId = u)
    (t.getAgentData u = none ↔ ∀ a ∈ calls, a.uniqueId ≠ u) ∧
      (t.getAgentData u = mine.getLast?.map fun last => {
        instanceId := last.instanceId
        name := last.agentName
        accountName := (mine.filterMap (·.accountName)).getLast?.getD []
        subgroup := (mine.filterMap (·.subgroup)).getLast?.getD 0
        isMinion := (mine.filterMap (·.isMinion)).getLast?.getD false
        isPlayer := (mine.filterMap (·.isPlayer)).getLast?.getD false
        profession := last.profession
        elite := last.elite }) ∧
      t.getUniqueId i true = (calls.filter (·.instanceId = i)).getLast?.map (·.uniqueId) ∧
      t.getUniqueId i false =
        (t.getUniqueId i true).filter fun v => (t.getAgentData v).any (·.isPlayer) := by
  have found := getAgentData_ofCalls calls u
  refine ⟨?_, found, getUniqueId_true calls i, getUniqueId_false _ i⟩
  change (ofCalls calls).getAgentData u = none ↔ _
  rw [found, summary, Option.map_eq_none_iff, List.getLast?_eq_none_iff, List.filter_eq_nil_iff]
  simp

/-- No instance id leads to an agent that has another one by now. -/
def IndexConsistent (t : AgentTable) : Prop :=
  ∀ i u, t.getUniqueId i true = some u →
    ∃ agent, t.getAgentData u = some agent ∧ agent.instanceId = i

/-- The last call with an instance id is the last for its agent as well: whoever
moves on to another id does so before somebody takes over the old one. -/
def HandedOn (calls : List Agent) : Prop :=
  ∀ before a after, calls = before ++ a :: after →
    (∀ b ∈ after, b.instanceId ≠ a.instanceId) → ∀ b ∈ after, b.uniqueId ≠ a.uniqueId

theorem getUniqueId_eq_some_iff {calls : List Agent} {i : UInt16} {u : UInt64} :
    (ofCalls calls).getUniqueId i true = some u ↔
      ∃ before a after, calls = before ++ a :: after ∧ a.instanceId = i ∧ a.uniqueId = u ∧
        ∀ b ∈ after, b.instanceId ≠ i := by
  rw [getUniqueId_true, Option.map_eq_some_iff]
  simp only [getLast?_filter_eq_some_iff, decide_eq_true_iff, decide_eq_false_iff_not]
  constructor
  · rintro ⟨a, ⟨named, before, after, split, none⟩, mine⟩
    exact ⟨before, a, after, split, named, mine, none⟩
  · rintro ⟨before, a, after, split, named, mine, none⟩
    exact ⟨a, ⟨named, before, after, split, none⟩, mine⟩

theorem instanceId_eq_iff {calls : List Agent} {u : UInt64} {i : UInt16} :
    (∃ agent, (ofCalls calls).getAgentData u = some agent ∧ agent.instanceId = i) ↔
      ∃ before a after, calls = before ++ a :: after ∧ a.uniqueId = u ∧ a.instanceId = i ∧
        ∀ b ∈ after, b.uniqueId ≠ u := by
  simp only [getAgentData_ofCalls, summary, Option.map_eq_some_iff, getLast?_filter_eq_some_iff,
    decide_eq_true_iff, decide_eq_false_iff_not]
  constructor
  · rintro ⟨_, ⟨a, ⟨mine, before, after, split, none⟩, rfl⟩, same⟩
    exact ⟨before, a, after, split, mine, same, none⟩
  · rintro ⟨before, a, after, split, mine, same, none⟩
    exact ⟨_, ⟨a, ⟨mine, before, after, split, none⟩, rfl⟩, same⟩

theorem indexConsistent_iff_handedOn (calls : List Agent) :
    (calls.foldl addAgent empty).IndexConsistent ↔ HandedOn calls := by
  change (ofCalls calls).IndexConsistent ↔ _
  constructor
  · intro consistent before a after split none b later same
    have indexed : (ofCalls calls).getUniqueId a.instanceId true = some a.uniqueId :=
      getUniqueId_eq_some_iff.mpr ⟨before, a, after, split, rfl, rfl, none⟩
    obtain ⟨before', a', after', split', mine, here, last⟩ :=
      instanceId_eq_iff.mp (consistent _ _ indexed)
    -- The last call for the agent comes no earlier than `b`, so it is in `after`.
    rw [split, List.append_eq_append_iff] at split'
    obtain ⟨between, -, eq⟩ | ⟨between, -, eq⟩ := split'
    · cases between with
      | nil =>
        obtain ⟨-, rfl⟩ := List.cons.inj eq
        exact last b later same
      | cons _ between =>
        have later' : a' ∈ after := by
          rw [(List.cons.inj eq).2]
          exact List.mem_append_right _ (.head _)
        exact none a' later' here
    · cases between with
      | nil =>
        obtain ⟨-, rfl⟩ := List.cons.inj eq
        exact last b later same
      | cons _ between =>
        refine last b ?_ same
        rw [(List.cons.inj eq).2]
        exact List.mem_append_right _ (.tail _ later)
  · intro handedOn i u indexed
    obtain ⟨before, a, after, split, rfl, rfl, none⟩ := getUniqueId_eq_some_iff.mp indexed
    exact instanceId_eq_iff.mpr
      ⟨before, a, after, split, rfl, rfl, handedOn before a after split none⟩

/-- An agent that moves from instance id 5 to 6 can still be found under 5. -/
theorem indexConsistent_fails_moved :
    ¬ ([⟨1, 5, [65], none, none, none, none, 1, 0⟩,
        ⟨1, 6, [65], none, none, none, none, 1, 0⟩].foldl addAgent empty).IndexConsistent := by
  intro consistent
  obtain ⟨agent, found, here⟩ := consistent 5 1 (by decide)
  have moved : (ofCalls [⟨1, 5, [65], none, none, none, none, 1, 0⟩,
      ⟨1, 6, [65], none, none, none, none, 1, 0⟩]).getAgentData 1 =
        some ⟨6, [65], [], 0, false, false, 1, 0⟩ := by decide
  cases moved.symm.trans found
  exact absurd here (by decide)

end AgentTable

end ArcdpsHealing.Processor
