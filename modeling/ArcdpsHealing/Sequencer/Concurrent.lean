import ArcdpsHealing.Lib.Run
import ArcdpsHealing.Lib.SharedMutex
import ArcdpsHealing.Sequencer.Sequential

namespace ArcdpsHealing.Sequencer

open Lib

abbrev EventCount := Fin (maxQueuedEvents + 1)

/-- Where a call stands, with its live locals. -/
inductive Pc
  | idle
  | load
  | registerFirst
  | invoke (b : Branch)
  | returning (b : Branch)
  | advance
  | lockShared (current : Nat)
  | recheck (current : Nat)
  | reserve (current : Nat)
  | confirm (current : Nat) (index : Slot)
  | discard (current : Nat) (index : Slot)
  | retry (current : Nat)
  | store (index : Slot)
  | release
  | probe
  | lockExclusive
  | count
  | scan (eventCount : EventCount) (i : Nat) (removed : Bool) (nonZeroEvents : Nat)
  | invokeDelayed (eventCount : EventCount) (i : Slot) (nonZeroEvents : Nat)
  | returningDelayed (eventCount : EventCount) (i : Slot) (nonZeroEvents : Nat)
  | advanceDelayed (eventCount : EventCount) (i : Slot) (nonZeroEvents : Nat)
  | reset
  | compare (oldSize : Nat)
  | raise (oldSize : Nat)
  | unlock
  | done
  | assertFailed
  deriving DecidableEq

def route (id current : Nat) : Pc :=
  if current = id then .invoke .twice
  else if current = unregistered then .registerFirst
  else if current > id - 1 then .invoke .lower
  else if current = id - 1 then .invoke .fastPath
  else .lockShared current

def afterCallback : Branch → Pc
  | .fastPath => .advance
  | .overflow => .release
  | .idZero | .twice | .lower | .delayed => .done

/-- The `do … while` loop between two reads of a slot. -/
def scanEnd (eventCount : EventCount) (removed : Bool) (nonZeroEvents : Nat) : Pc :=
  if removed then .scan eventCount 0 false 0
  else if nonZeroEvents = 0 then .reset
  else .unlock

/-- One look at slot `i`. -/
def inspect (st : State) (eventCount : EventCount) (i : Slot) (removed : Bool)
    (nonZeroEvents : Nat) : Pc :=
  if (st.queuedEvents i).id = 0 then .scan eventCount (i + 1) removed nonZeroEvents
  else if st.highestId ≠ (st.queuedEvents i).id - 1 then
    .scan eventCount (i + 1) removed (nonZeroEvents + 1)
  else .invokeDelayed eventCount i nonZeroEvents

/-- Everything the calls share. A call is named by its id, and a thread is
whatever makes calls one after another. -/
structure World where
  st : State
  lock : SharedMutex Nat
  pc : Nat → Pc

inductive Label
  | internal
  | submit (id : Nat)
  | register (base : Nat)
  | fetch (index : Nat)
  | call (c : Call)
  | ret (c : Call)
  deriving DecidableEq

def World.initial (memory : Slot → QueuedEvent) : World := ⟨.initial memory, .free, fun _ => .idle⟩

def World.goto (w : World) (k : Nat) (p : Pc) : World :=
  { w with pc := Function.update w.pc k p }

def World.setSt (w : World) (st : State) : World := { w with st := st }

def World.setLock (w : World) (lock : SharedMutex Nat) : World := { w with lock := lock }

namespace World

variable (w : World) (k j : Nat) (p : Pc) (st : State) (lock : SharedMutex Nat)

@[grind =] theorem pc_goto : (w.goto k p).pc j = if j = k then p else w.pc j := by
  simp [goto, Function.update_apply]
@[simp, grind =] theorem pc_goto_self : (w.goto k p).pc k = p := by simp [goto]
@[simp, grind =] theorem st_goto : (w.goto k p).st = w.st := rfl
@[simp, grind =] theorem lock_goto : (w.goto k p).lock = w.lock := rfl
@[simp, grind =] theorem st_setSt : (w.setSt st).st = st := rfl
@[simp, grind =] theorem lock_setSt : (w.setSt st).lock = w.lock := rfl
@[simp, grind =] theorem pc_setSt : (w.setSt st).pc k = w.pc k := rfl
@[simp, grind =] theorem st_setLock : (w.setLock lock).st = w.st := rfl
@[simp, grind =] theorem lock_setLock : (w.setLock lock).lock = lock := rfl
@[simp, grind =] theorem pc_setLock : (w.setLock lock).pc k = w.pc k := rfl

end World

/-- One step of call `k`. A weak compare-exchange may fail for no reason, and
a failed `assert` stops the call for good. -/
inductive Step (args : Nat → Call) (w : World) : Label → World → Prop
  | submit {k} (h : w.pc k = .idle) (pos : 0 < k) (lt : k < unregistered) :
      Step args w (.submit k) (w.goto k .load)
  | load {k} (h : w.pc k = .load) :
      Step args w .internal (w.goto k (route k w.st.highestId))
  | registerFirst {k} (h : w.pc k = .registerFirst) (fresh : w.st.highestId = unregistered) :
      Step args w (.register (k - 1)) ((w.setSt (w.st.setHighest (k - 1))).goto k .load)
  | registerFails {k} (h : w.pc k = .registerFirst) :
      Step args w .internal (w.goto k .load)
  | invoke {k b} (h : w.pc k = .invoke b) :
      Step args w (.call (args k)) (w.goto k (.returning b))
  | returning {k b} (h : w.pc k = .returning b) :
      Step args w (.ret (args k)) (w.goto k (afterCallback b))
  | advance {k} (h : w.pc k = .advance) (same : w.st.highestId = k - 1) :
      Step args w .internal ((w.setSt (w.st.setHighest k)).goto k .probe)
  | advanceFails {k} (h : w.pc k = .advance) (changed : w.st.highestId ≠ k - 1) :
      Step args w .internal (w.goto k .assertFailed)
  | lockShared {k current lock} (h : w.pc k = .lockShared current)
      (locked : w.lock.lockShared k = some lock) :
      Step args w .internal ((w.setLock lock).goto k (.recheck current))
  | recheck {k current} (h : w.pc k = .recheck current) (same : w.st.highestId = current) :
      Step args w .internal (w.goto k (.reserve current))
  | race1 {k current} (h : w.pc k = .recheck current) (changed : w.st.highestId ≠ current) :
      Step args w .internal (w.goto k (.retry w.st.highestId))
  | reserve {k current} (h : w.pc k = .reserve current)
      (room : w.st.queuedEventCount < maxQueuedEvents) :
      Step args w (.fetch w.st.queuedEventCount)
        ((w.setSt (w.st.setCount (fetchAdd w.st.queuedEventCount))).goto k
          (.confirm current ⟨w.st.queuedEventCount, room⟩))
  | overflow {k current} (h : w.pc k = .reserve current)
      (full : maxQueuedEvents ≤ w.st.queuedEventCount) :
      Step args w (.fetch w.st.queuedEventCount)
        ((w.setSt (w.st.setCount (fetchAdd w.st.queuedEventCount))).goto k (.invoke .overflow))
  | confirm {k current index} (h : w.pc k = .confirm current index)
      (same : w.st.highestId = current) :
      Step args w .internal (w.goto k (.store index))
  | race2 {k current index} (h : w.pc k = .confirm current index)
      (changed : w.st.highestId ≠ current) :
      Step args w .internal (w.goto k (.discard w.st.highestId index))
  | discard {k current index} (h : w.pc k = .discard current index) :
      Step args w .internal
        ((w.setSt (w.st.setSlot index (w.st.queuedEvents index).clear)).goto k (.retry current))
  | retry {k current} (h : w.pc k = .retry current) :
      Step args w .internal ((w.setLock (w.lock.unlockShared k)).goto k (route k current))
  | store {k index} (h : w.pc k = .store index) :
      Step args w .internal
        ((w.setSt (w.st.setSlot index ((w.st.queuedEvents index).store (args k)))).goto k .release)
  | release {k} (h : w.pc k = .release) :
      Step args w .internal ((w.setLock (w.lock.unlockShared k)).goto k .done)
  | probe {k} (h : w.pc k = .probe) (busy : w.st.queuedEventCount ≠ 0) :
      Step args w .internal (w.goto k .lockExclusive)
  | probeEmpty {k} (h : w.pc k = .probe) (empty : w.st.queuedEventCount = 0) :
      Step args w .internal (w.goto k .done)
  | lockExclusive {k lock} (h : w.pc k = .lockExclusive) (locked : w.lock.lock k = some lock) :
      Step args w .internal ((w.setLock lock).goto k .count)
  | count {k} (h : w.pc k = .count) :
      Step args w .internal (w.goto k
        (.scan ⟨min w.st.queuedEventCount maxQueuedEvents, by omega⟩ 0 false 0))
  | inspect {k eventCount i removed nonZeroEvents}
      (h : w.pc k = .scan eventCount i removed nonZeroEvents) (more : i < eventCount.val) :
      Step args w .internal
        (w.goto k (inspect w.st eventCount ⟨i, by omega⟩ removed nonZeroEvents))
  | scanEnd {k eventCount i removed nonZeroEvents}
      (h : w.pc k = .scan eventCount i removed nonZeroEvents) (last : eventCount.val ≤ i) :
      Step args w .internal (w.goto k (scanEnd eventCount removed nonZeroEvents))
  | invokeDelayed {k eventCount i nonZeroEvents}
      (h : w.pc k = .invokeDelayed eventCount i nonZeroEvents) :
      Step args w (.call (w.st.queuedEvents i).load)
        (w.goto k (.returningDelayed eventCount i nonZeroEvents))
  | returningDelayed {k eventCount i nonZeroEvents}
      (h : w.pc k = .returningDelayed eventCount i nonZeroEvents) :
      Step args w (.ret (w.st.queuedEvents i).load)
        (w.goto k (.advanceDelayed eventCount i nonZeroEvents))
  | advanceDelayed {k eventCount i nonZeroEvents}
      (h : w.pc k = .advanceDelayed eventCount i nonZeroEvents)
      (same : w.st.highestId = (w.st.queuedEvents i).id - 1) :
      Step args w .internal
        ((w.setSt ((w.st.setSlot i (w.st.queuedEvents i).clear).setHighest
          (w.st.queuedEvents i).id)).goto k (.scan eventCount (i + 1) true nonZeroEvents))
  | advanceDelayedFails {k eventCount i nonZeroEvents}
      (h : w.pc k = .advanceDelayed eventCount i nonZeroEvents)
      (changed : w.st.highestId ≠ (w.st.queuedEvents i).id - 1) :
      Step args w .internal (w.goto k .assertFailed)
  | reset {k} (h : w.pc k = .reset) (empty : ∀ i, (w.st.queuedEvents i).id = 0) :
      Step args w .internal
        ((w.setSt (w.st.setCount 0)).goto k (.compare w.st.queuedEventCount))
  | resetFails {k} (h : w.pc k = .reset) (busy : ∃ i, (w.st.queuedEvents i).id ≠ 0) :
      Step args w .internal (w.goto k .assertFailed)
  | compareRaises {k oldSize} (h : w.pc k = .compare oldSize)
      (lt : w.st.highestQueueSize < oldSize) :
      Step args w .internal (w.goto k (.raise oldSize))
  | compareKeeps {k oldSize} (h : w.pc k = .compare oldSize)
      (le : oldSize ≤ w.st.highestQueueSize) :
      Step args w .internal (w.goto k .unlock)
  | raise {k oldSize} (h : w.pc k = .raise oldSize) :
      Step args w .internal
        ((w.setSt (w.st.setHighestQueueSize oldSize)).goto k .unlock)
  | unlock {k} (h : w.pc k = .unlock) :
      Step args w .internal ((w.setLock w.lock.unlock).goto k .done)

end ArcdpsHealing.Sequencer
