import ArcdpsHealing.Arcdps.Structs
import Mathlib.Logic.Function.Basic

namespace ArcdpsHealing.Sequencer

open ArcdpsHealing.Arcdps

/-- What arcdps passes to `ProcessEvent`, and what the callback is handed.
Null pointers are `none`. -/
structure Call where
  event : Option CbtEvent
  sourceAgent : Option Ag
  destinationAgent : Option Ag
  skillname : Option CString
  id : Nat
  revision : UInt64
  deriving DecidableEq, Repr

def Call.bare (id : Nat) : Call := ⟨none, none, none, none, id, 0⟩

/-- The `ag` of a queue slot. Its `name` is either null or points at the
slot's own `name_storage`. -/
structure AgStorage where
  nameStorage : CString
  hasName : Bool
  id : UInt64
  prof : UInt32
  elite : UInt32
  self : UInt32
  team : UInt16
  present : Bool
  deriving DecidableEq, Repr

def AgStorage.store (slot : AgStorage) : Option Ag → AgStorage
  | none => { slot with present := false }
  | some a =>
    let copied := { slot with id := a.id, prof := a.prof, elite := a.elite, self := a.self,
                              team := a.team, present := true }
    match a.name with
    | some name => { copied with nameStorage := name, hasName := true }
    | none => { copied with hasName := false }

def AgStorage.load (slot : AgStorage) : Option Ag :=
  if slot.present then
    some { name := if slot.hasName then some slot.nameStorage else none
           id := slot.id, prof := slot.prof, elite := slot.elite, self := slot.self,
           team := slot.team }
  else none

@[simp] theorem AgStorage.load_store (slot : AgStorage) (a : Option Ag) :
    (slot.store a).load = a := by
  rcases a with _ | ⟨_ | name⟩ <;> rfl

/-- `EventSequencer::Event`. -/
structure QueuedEvent where
  ev : CbtEvent
  evPresent : Bool
  sourceAg : AgStorage
  destinationAg : AgStorage
  skillname : Option CString
  id : Nat
  revision : UInt64
  deriving DecidableEq, Repr

/-- Lines 117 to 179 of `ProcessEvent`. -/
def QueuedEvent.store (slot : QueuedEvent) (c : Call) : QueuedEvent where
  ev := c.event.getD slot.ev
  evPresent := c.event.isSome
  sourceAg := slot.sourceAg.store c.sourceAgent
  destinationAg := slot.destinationAg.store c.destinationAgent
  skillname := c.skillname
  id := c.id
  revision := c.revision

def QueuedEvent.load (slot : QueuedEvent) : Call where
  event := if slot.evPresent then some slot.ev else none
  sourceAgent := slot.sourceAg.load
  destinationAgent := slot.destinationAg.load
  skillname := slot.skillname
  id := slot.id
  revision := slot.revision

def QueuedEvent.clear (slot : QueuedEvent) : QueuedEvent := { slot with id := 0 }

def QueuedEvent.zeroed : QueuedEvent where
  ev := CbtEvent.codec.decode (List.replicate 64 0)
  evPresent := false
  sourceAg := ⟨[], false, 0, 0, 0, 0, 0, false⟩
  destinationAg := ⟨[], false, 0, 0, 0, 0, 0, false⟩
  skillname := none
  id := 0
  revision := 0

@[simp, grind =] theorem QueuedEvent.load_store (slot : QueuedEvent) (c : Call) :
    (slot.store c).load = c := by
  obtain ⟨_ | ev, src, dst, skill, id, rev⟩ := c <;> simp [load, store]

@[simp, grind =] theorem QueuedEvent.id_store (slot : QueuedEvent) (c : Call) :
    (slot.store c).id = c.id := rfl
@[simp, grind =] theorem QueuedEvent.id_load (slot : QueuedEvent) : slot.load.id = slot.id := rfl
@[simp, grind =] theorem QueuedEvent.id_clear (slot : QueuedEvent) : slot.clear.id = 0 := rfl

/-- `MAX_QUEUED_EVENTS`. -/
def maxQueuedEvents : Nat := 256

/-- `UINT64_MAX`, the value of `mHighestId` before the first event. -/
def unregistered : Nat := 2 ^ 64 - 1

abbrev Slot := Fin maxQueuedEvents

structure State where
  highestId : Nat
  queuedEventCount : Nat
  highestQueueSize : Nat
  queuedEvents : Slot → QueuedEvent

/-- `fetch_add(1)` on a 32-bit counter. -/
def fetchAdd (count : Nat) : Nat := (count + 1) % 2 ^ 32

/-- Memory as the constructor leaves it: only the slots' ids are set. -/
def State.initial (memory : Slot → QueuedEvent) : State where
  highestId := unregistered
  queuedEventCount := 0
  highestQueueSize := 0
  queuedEvents i := (memory i).clear

def State.setSlot (s : State) (i : Slot) (e : QueuedEvent) : State :=
  { s with queuedEvents := Function.update s.queuedEvents i e }

def State.setHighest (s : State) (m : Nat) : State := { s with highestId := m }

def State.setCount (s : State) (n : Nat) : State := { s with queuedEventCount := n }

def State.setHighestQueueSize (s : State) (n : Nat) : State := { s with highestQueueSize := n }

def State.Holds (s : State) (k : Nat) : Prop := ∃ i, (s.queuedEvents i).id = k

namespace State

variable (s : State) (i j : Slot) (e : QueuedEvent) (c : Call) (k m n : Nat)

@[simp, grind =] theorem highestId_setSlot : (s.setSlot i e).highestId = s.highestId := rfl
@[simp, grind =] theorem queuedEventCount_setSlot :
    (s.setSlot i e).queuedEventCount = s.queuedEventCount := rfl
@[simp, grind =] theorem queuedEvents_setSlot_self : (s.setSlot i e).queuedEvents i = e := by
  simp [setSlot]
@[grind =] theorem queuedEvents_setSlot :
    (s.setSlot i e).queuedEvents j = if j = i then e else s.queuedEvents j := by
  simp [setSlot, Function.update_apply]

@[simp, grind =] theorem highestId_setHighest : (s.setHighest m).highestId = m := rfl
@[simp, grind =] theorem queuedEventCount_setHighest :
    (s.setHighest m).queuedEventCount = s.queuedEventCount := rfl
@[simp, grind =] theorem queuedEvents_setHighest :
    (s.setHighest m).queuedEvents i = s.queuedEvents i := rfl

@[simp, grind =] theorem highestId_setCount : (s.setCount n).highestId = s.highestId := rfl
@[simp, grind =] theorem queuedEventCount_setCount : (s.setCount n).queuedEventCount = n := rfl
@[simp, grind =] theorem queuedEvents_setCount :
    (s.setCount n).queuedEvents i = s.queuedEvents i := rfl

@[simp, grind =] theorem highestId_setHighestQueueSize :
    (s.setHighestQueueSize n).highestId = s.highestId := rfl
@[simp, grind =] theorem queuedEventCount_setHighestQueueSize :
    (s.setHighestQueueSize n).queuedEventCount = s.queuedEventCount := rfl
@[simp, grind =] theorem queuedEvents_setHighestQueueSize :
    (s.setHighestQueueSize n).queuedEvents i = s.queuedEvents i := rfl

theorem holds_slot : s.Holds (s.queuedEvents i).id := ⟨i, rfl⟩

@[simp, grind =] theorem holds_setHighest : (s.setHighest m).Holds k ↔ s.Holds k := Iff.rfl
@[simp, grind =] theorem holds_setCount : (s.setCount n).Holds k ↔ s.Holds k := Iff.rfl
@[simp, grind =] theorem holds_setHighestQueueSize :
    (s.setHighestQueueSize n).Holds k ↔ s.Holds k := Iff.rfl

theorem holds_store (empty : (s.queuedEvents i).id = 0) (pos : 0 < k) :
    (s.setSlot i ((s.queuedEvents i).store c)).Holds k ↔ s.Holds k ∨ c.id = k := by
  constructor
  · intro ⟨j, hj⟩
    rw [queuedEvents_setSlot] at hj
    split at hj
    · exact .inr hj
    · exact .inl ⟨j, hj⟩
  · intro holds
    cases holds with
    | inl holds =>
      obtain ⟨j, hj⟩ := holds
      refine ⟨j, ?_⟩
      rw [queuedEvents_setSlot, if_neg, hj]
      intro same
      rw [same, empty] at hj
      exact pos.ne hj
    | inr new =>
      refine ⟨i, ?_⟩
      rw [queuedEvents_setSlot_self]
      exact new

theorem holds_clear (inj : ∀ j, (s.queuedEvents i).id = (s.queuedEvents j).id → i = j)
    (pos : 0 < k) :
    (s.setSlot i (s.queuedEvents i).clear).Holds k ↔ s.Holds k ∧ k ≠ (s.queuedEvents i).id := by
  constructor
  · intro ⟨j, hj⟩
    rw [queuedEvents_setSlot] at hj
    split at hj
    · exact absurd hj pos.ne
    · rename_i ne
      exact ⟨⟨j, hj⟩, fun same => ne (inj j (by rw [hj, same])).symm⟩
  · intro ⟨⟨j, hj⟩, ne⟩
    refine ⟨j, ?_⟩
    rw [queuedEvents_setSlot, if_neg, hj]
    intro same
    exact ne (same ▸ hj.symm)

theorem holds_discard (empty : (s.queuedEvents i).id = 0) :
    (s.setSlot i (s.queuedEvents i).clear).Holds k ↔ s.Holds k := by
  refine exists_congr fun j => ?_
  rw [queuedEvents_setSlot]
  split
  · rename_i same
    rw [QueuedEvent.id_clear, same, empty]
  · exact Iff.rfl

end State

end ArcdpsHealing.Sequencer
