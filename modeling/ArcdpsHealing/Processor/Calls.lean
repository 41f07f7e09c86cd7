import ArcdpsHealing.Processor.EventProcessor
import ArcdpsHealing.Processor.Sessions

namespace ArcdpsHealing.Processor

open Arcdps PlayerStats

def recorded (e : CbtEvent) (destination : UInt64) : PlayerStats.Call :=
  if e.isShields ≠ 0 then .barrierGenerationEvent e destination else .healingEvent e destination

theorem some_recorded (e : CbtEvent) (destination : UInt64) :
    (if e.isShields ≠ 0 then some (Call.barrierGenerationEvent e destination)
      else some (Call.healingEvent e destination)) = some (recorded e destination) := by
  unfold recorded
  split <;> rfl

theorem call_recorded (s : PlayerStats) (e : CbtEvent) (destination : UInt64) :
    s.call (recorded e destination) = s.record e destination (e.isShields ≠ 0) := by
  unfold recorded
  split
  case isTrue shields =>
    rw [decide_eq_true shields]
    rfl
  case isFalse heals =>
    rw [decide_eq_false heals]
    rfl

namespace EventProcessor

variable (c : Enums) (p : EventProcessor) (e : CbtEvent)

/-- The call that `PeerCombat` makes on the peer's statistics, if any. -/
def peerCall (peerInstanceId : UInt16) : Option Call :=
  if e.isStatechange = c.enterCombat then
    if e.srcInstid = peerInstanceId then some (.enteredCombat e.time e.dstAgent.toUInt16) else none
  else if e.isStatechange = c.exitCombat then
    if e.srcInstid = peerInstanceId then some (.exitedCombat e.time e.readIff) else none
  else
    match getEventType c e true with
    | .damage | .semiDamaging =>
      if (e.srcInstid = peerInstanceId ∨ e.dstInstid = peerInstanceId) ∧ e.iff = c.foe then
        some (.damageEvent e.time)
      else none
    | .other => none
    | .healing =>
      match p.agentTable.getUniqueId e.dstInstid true with
      | none => none
      | some destination =>
        if e.srcInstid ≠ peerInstanceId ∧ e.srcMasterInstid ≠ peerInstanceId then none
        else if e.isShields ≠ 0 then some (.barrierGenerationEvent e destination)
        else some (.healingEvent e destination)

theorem peerUpdate_eq (peerInstanceId : UInt16) (stats : PlayerStats) :
    peerUpdate c p e peerInstanceId stats =
      (peerCall c p e peerInstanceId).toList.foldl call stats := by
  unfold peerUpdate peerCall
  split
  case isTrue => split <;> rfl
  split
  case isTrue => split <;> rfl
  cases getEventType c e true with
  | damage | semiDamaging =>
    dsimp only
    split <;> rfl
  | other => rfl
  | healing =>
    dsimp only
    cases p.agentTable.getUniqueId e.dstInstid true with
    | none => rfl
    | some destination =>
      dsimp only
      split
      case isTrue => rfl
      split <;> rfl

/-- The call that `LocalCombat` makes on the own statistics, if any. -/
def localCall (source destination : Ag) : Option Call :=
  if e.isStatechange = c.enterCombat then
    if source.self ≠ 0 then some (.enteredCombat e.time e.dstAgent.toUInt16) else none
  else if e.isStatechange = c.exitCombat then
    if source.self ≠ 0 then some (.exitedCombat e.time 0) else none
  else
    match getEventType c e true with
    | .damage | .semiDamaging =>
      if (source.self ≠ 0 ∨ destination.self ≠ 0) ∧ e.iff = c.foe then some (.damageEvent e.time)
      else none
    | .other => none
    | .healing =>
      if source.self = 0 ∧ e.srcMasterInstid ≠ p.selfInstanceId.toUInt16 then none
      else if e.isShields ≠ 0 then some (.barrierGenerationEvent e destination.id)
      else some (.healingEvent e destination.id)

section Healing

variable {c e} (enter : e.isStatechange ≠ c.enterCombat) (exit : e.isStatechange ≠ c.exitCombat)
  (type : getEventType c e true = .healing)

include enter exit type

theorem localCall_healing (source destination : Ag) : localCall c p e source destination =
    (if source.self = 0 ∧ e.srcMasterInstid ≠ p.selfInstanceId.toUInt16 then none
      else some destination.id).map (recorded e) := by
  rw [localCall, if_neg enter, if_neg exit, type]
  dsimp only
  split
  · rfl
  · exact some_recorded e destination.id

theorem peerCall_healing (peerInstanceId : UInt16) : peerCall c p e peerInstanceId =
    ((p.agentTable.getUniqueId e.dstInstid true).bind fun destination =>
      if e.srcInstid ≠ peerInstanceId ∧ e.srcMasterInstid ≠ peerInstanceId then none
      else some destination).map (recorded e) := by
  rw [peerCall, if_neg enter, if_neg exit, type]
  dsimp only
  cases p.agentTable.getUniqueId e.dstInstid true with
  | none => rfl
  | some destination =>
    dsimp only [Option.bind_some]
    split
    · rfl
    · exact some_recorded e destination

end Healing

variable {c p e} in
theorem peerCall_cases {i : UInt16} {k : Call} (made : peerCall c p e i = some k) :
    e.isStatechange = c.enterCombat ∧ k = .enteredCombat e.time e.dstAgent.toUInt16 ∨
      (e.isStatechange = c.exitCombat ∧ e.srcInstid = i ∧ k = .exitedCombat e.time e.readIff) ∨
      k = .damageEvent e.time ∨
      (e.isStatechange ≠ c.enterCombat ∧ e.isStatechange ≠ c.exitCombat ∧
        getEventType c e true = .healing ∧ ∃ destination, k = recorded e destination) := by
  by_cases enter : e.isStatechange = c.enterCombat
  · rw [peerCall, if_pos enter, Option.ite_none_right_eq_some] at made
    obtain ⟨-, same⟩ := made
    exact .inl ⟨enter, (Option.some.inj same).symm⟩
  by_cases exit : e.isStatechange = c.exitCombat
  · rw [peerCall, if_neg enter, if_pos exit, Option.ite_none_right_eq_some] at made
    obtain ⟨own, same⟩ := made
    exact .inr (.inl ⟨exit, own, (Option.some.inj same).symm⟩)
  cases type : getEventType c e true with
  | damage | semiDamaging =>
    simp only [peerCall, if_neg enter, if_neg exit, type, Option.ite_none_right_eq_some] at made
    obtain ⟨-, same⟩ := made
    exact .inr (.inr (.inl (Option.some.inj same).symm))
  | other =>
    simp only [peerCall, if_neg enter, if_neg exit, type] at made
    cases made
  | healing =>
    rw [peerCall_healing p enter exit type, Option.map_eq_some_iff] at made
    obtain ⟨destination, -, same⟩ := made
    exact .inr (.inr (.inr ⟨enter, exit, rfl, destination, same.symm⟩))

section Local

variable (env : Ambient) (event : CbtEvent) (source destination : Ag)

theorem processor_localCombat : ∃ table,
    (localCombat c env p event source destination).processor = { p with
      agentTable := table
      localState := (localCall c p (preProcessEvent c event true) source destination).toList.foldl
        call p.localState
      peerStates := if event.isStatechange = c.enterCombat then sweepPeers env p.peerStates
        else p.peerStates } := by
  refine ⟨(localCombat c env p event source destination).processor.agentTable, ?_⟩
  rw [← isStatechange_preProcessEvent c event true]
  unfold localCombat localCall
  generalize preProcessEvent c event true = e
  dsimp only
  split
  case isTrue =>
    dsimp only
    split <;> rfl
  split
  case isTrue => split <;> rfl
  cases getEventType c e true with
  | damage | semiDamaging =>
    dsimp only
    split <;> rfl
  | other => rfl
  | healing =>
    dsimp only
    split
    case isTrue => rfl
    dsimp only
    split <;> rfl

theorem localState_localCombat :
    (localCombat c env p event source destination).processor.localState =
      (localCall c p (preProcessEvent c event true) source destination).toList.foldl call
        p.localState := by
  obtain ⟨table, eq⟩ := processor_localCombat c p env event source destination
  rw [eq]

theorem selfInstanceId_localCombat :
    (localCombat c env p event source destination).processor.selfInstanceId =
      p.selfInstanceId := by
  obtain ⟨table, eq⟩ := processor_localCombat c p env event source destination
  rw [eq]

theorem peerStates_localCombat :
    (localCombat c env p event source destination).processor.peerStates =
      if event.isStatechange = c.enterCombat then sweepPeers env p.peerStates
      else p.peerStates := by
  obtain ⟨table, eq⟩ := processor_localCombat c p env event source destination
  rw [eq]

theorem localAgent_eq : ∃ table uniqueId, p.localAgent env source destination = { p with
    agentTable := table
    selfUniqueId := uniqueId
    selfInstanceId :=
      if source.elite = 0 ∧ source.prof ≠ 0 ∧ destination.self ≠ 0 then
        destination.id.toUInt16.toUInt32
      else p.selfInstanceId
    localState :=
      if source.elite = 0 ∧ source.prof = 0 ∧ source.id = p.selfUniqueId then
        (p.localState.exitedCombat env.time.toUInt64).2
      else p.localState } := by
  refine ⟨(p.localAgent env source destination).agentTable,
    (p.localAgent env source destination).selfUniqueId, ?_⟩
  unfold localAgent
  by_cases elite : source.elite = 0
  case neg => simp [elite]
  by_cases prof : source.prof = 0
  · by_cases self : source.id = p.selfUniqueId
    · simp [elite, prof, self]
    · simp [elite, prof, self]
  · by_cases self : destination.self = 0
    · cases source.name <;> simp [elite, prof, self]
    · cases source.name <;> simp [elite, prof, self]

end Local

theorem forwarded_localCombat (env : Ambient) (event : CbtEvent) (source destination : Ag) :
    let r := localCombat c env p event source destination
    let e := preProcessEvent c event true
    r.modified.getD r.event =
      if e.isStatechange = c.exitCombat ∧ e.isStatechange ≠ c.enterCombat ∧ source.self ≠ 0 then
        e.writeIff (p.localState.exitedCombat e.time).1
      else e := by
  -- The event that goes out to the peers: a combat exit of self carries the time of the last
  -- damage.
  unfold localCombat
  generalize preProcessEvent c event true = e
  dsimp only
  by_cases enter : e.isStatechange = c.enterCombat
  · have kept : ¬ (e.isStatechange = c.exitCombat ∧ e.isStatechange ≠ c.enterCombat ∧
        source.self ≠ 0) := fun h => h.2.1 enter
    rw [if_pos enter, if_neg kept]
    rfl
  rw [if_neg enter]
  by_cases exit : e.isStatechange = c.exitCombat
  · rw [if_pos exit]
    by_cases own : source.self ≠ 0
    · rw [if_pos own, if_pos ⟨exit, enter, own⟩]
      rfl
    · have kept : ¬ (e.isStatechange = c.exitCombat ∧ e.isStatechange ≠ c.enterCombat ∧
          source.self ≠ 0) := fun h => own h.2.2
      rw [if_neg own, if_neg kept]
      rfl
  have kept : ¬ (e.isStatechange = c.exitCombat ∧ e.isStatechange ≠ c.enterCombat ∧
      source.self ≠ 0) := fun h => exit h.1
  rw [if_neg exit, if_neg kept]
  cases getEventType c e true with
  | damage | semiDamaging =>
    dsimp only
    split <;> rfl
  | other => rfl
  | healing =>
    dsimp only
    split <;> rfl

end EventProcessor

end ArcdpsHealing.Processor
