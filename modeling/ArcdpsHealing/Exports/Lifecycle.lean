import ArcdpsHealing.Lib.Run
import ArcdpsHealing.Lib.SharedMutex

namespace ArcdpsHealing.Exports

open Lib

inductive Object
  | updateChecker
  | eventSequencer
  | eventProcessor
  | offloadedStatsAggregation
  | evtcRpcClient
  | evtcRpcClientThread
  | offloadedStatsAggregationThread
  deriving DecidableEq

inductive Thread
  | evtcRpcClient
  | offloadedStatsAggregation
  deriving DecidableEq

namespace Thread

def object : Thread → Object
  | evtcRpcClient => .evtcRpcClientThread
  | offloadedStatsAggregation => .offloadedStatsAggregationThread

def serves : Thread → Object
  | evtcRpcClient => .evtcRpcClient
  | offloadedStatsAggregation => .offloadedStatsAggregation

end Thread

/-- While it works, it is in `ProcessPeerEvent` or in `GetState`. -/
inductive Worker
  | none
  | serving
  | working
  | returned
  deriving DecidableEq

/-- What arcdps and ImGui call. -/
inductive Export
  | combat
  | combatLocal
  | imgui
  | optionsEnd
  | wnd
  | postNewFrame
  | preEndFrame
  deriving DecidableEq

namespace Export

/-- The local events of `combatLocal` go on to the processor and the client. -/
def uses : Export → List Object
  | combat => [.eventProcessor, .evtcRpcClient]
  | combatLocal => [.eventSequencer, .eventProcessor, .evtcRpcClient]
  | imgui => [.updateChecker, .offloadedStatsAggregation, .evtcRpcClient]
  | optionsEnd => [.evtcRpcClient, .offloadedStatsAggregation, .eventProcessor]
  | wnd => [.offloadedStatsAggregation, .evtcRpcClient]
  | postNewFrame => []
  | preEndFrame => []

/-- The hooks are ImGui's, which does not look at `ARC_EXPORTS`. -/
def isHook : Export → Bool
  | combat => false
  | combatLocal => false
  | imgui => false
  | optionsEnd => false
  | wnd => false
  | postNewFrame => true
  | preEndFrame => true

theorem uses_of_isHook {e : Export} (hook : e.isHook = true) : e.uses = [] := by
  cases e <;> first | rfl | cases hook

end Export

/-- Where a call of an export stands. It has `SHUTDOWN_LOCK` once it is there. -/
inductive Call
  | idle
  | entered (e : Export)
  | inside (e : Export)

inductive Action
  | make (o : Object)
  | check
  | use (o : Object)
  | unlock
  | shutdown (t : Thread)
  | join (t : Thread)
  | reset (o : Object)
  deriving DecidableEq

/-- `mod_init` once it has the lock. It gives up where the version or the
certificates cannot be read. -/
def modInit : List Action :=
  [.make .updateChecker, .check, .make .eventSequencer, .make .eventProcessor,
    .make .offloadedStatsAggregation, .make .evtcRpcClient, .use .eventProcessor,
    .use .evtcRpcClient, .use .updateChecker, .make .evtcRpcClientThread,
    .make .offloadedStatsAggregationThread, .unlock]

/-- `mod_release` once it has set the flag. -/
def modRelease : List Action :=
  [.shutdown .evtcRpcClient, .shutdown .offloadedStatsAggregation, .reset .updateChecker,
    .join .evtcRpcClient, .reset .evtcRpcClientThread, .reset .evtcRpcClient,
    .join .offloadedStatsAggregation, .reset .offloadedStatsAggregationThread,
    .reset .offloadedStatsAggregation, .reset .eventProcessor, .reset .eventSequencer]

/-- `exports` is whether `ARC_EXPORTS` has a signature, `loader` what is left
of `mod_init` or `mod_release`. `undefined` is set when a null pointer is used,
`assertFailed` by `ProcessPeerEvent`. -/
structure World where
  lock : SharedMutex (Option Nat) := .free
  isShutdown : Bool := true
  exports : Bool := false
  alive : Object → Bool := fun _ => false
  calls : Nat → Call := fun _ => .idle
  loader : List Action := []
  workers : Thread → Worker := fun _ => .none
  stopping : Thread → Bool := fun _ => false
  undefined : Bool := false
  assertFailed : Bool := false

inductive Label
  | enter (k : Nat) (e : Export)
  | check (k : Nat)
  | use (k : Nat) (o : Object)
  | leave (k : Nat)
  | init
  | fail
  | release
  | act (a : Action)
  | begin (t : Thread)
  | work (t : Thread)
  | finish (t : Thread)
  | stop (t : Thread)
  deriving DecidableEq

namespace World

variable (w : World)

def use (o : Object) : World := { w with undefined := w.undefined || !w.alive o }

def goto (k : Nat) (call : Call) : World := { w with calls := Function.update w.calls k call }

def leave (k : Nat) : World := { w.goto k .idle with lock := w.lock.unlockShared (some k) }

def setWorker (t : Thread) (worker : Worker) : World :=
  { w with workers := Function.update w.workers t worker }

def perform : Action → World
  | .make o =>
    { w with
      alive := Function.update w.alive o true
      workers := fun t => if t.object = o then .serving else w.workers t
      stopping := fun t => if t.serves = o then false else w.stopping t }
  | .check => w
  | .use o => w.use o
  | .unlock => { w with lock := w.lock.unlock }
  | .shutdown t => { w.use t.serves with stopping := Function.update w.stopping t true }
  | .join t => w.use t.object
  | .reset o =>
    { w with
      alive := Function.update w.alive o false
      workers := fun t => if t.object = o then .none else w.workers t }

def Ready : Action → Prop
  | .make _ => True
  | .check => True
  | .use _ => True
  | .unlock => True
  | .shutdown _ => True
  | .join t => w.workers t = .returned
  | .reset _ => True

end World

theorem World.calls_goto (w : World) (k j : Nat) (call : Call) :
    (w.goto k call).calls j = if j = k then call else w.calls j :=
  Function.update_apply _ _ _ _

/-- Whoever holds `SHUTDOWN_LOCK` may be overtaken by anybody who does not need
it. A module is loaded once before it is released. -/
inductive Step (w : World) : Label → World → Prop
  | enter {k e m} (idle : w.calls k = .idle) (exported : w.exports = true ∨ e.isHook = true)
      (locked : w.lock.lockShared (some k) = some m) :
      Step w (.enter k e) { w.goto k (.entered e) with lock := m }
  | refuse {k e} (at' : w.calls k = .entered e) (down : w.isShutdown = true) :
      Step w (.check k) (w.leave k)
  | accept {k e} (at' : w.calls k = .entered e) (up : w.isShutdown = false) :
      Step w (.check k) (w.goto k (.inside e))
  | use {k e o} (at' : w.calls k = .inside e) (mem : o ∈ e.uses) : Step w (.use k o) (w.use o)
  | leave {k e} (at' : w.calls k = .inside e) : Step w (.leave k) (w.leave k)
  | init {m} (idle : w.loader = []) (down : w.isShutdown = true)
      (locked : w.lock.lock none = some m) :
      Step w .init { w with lock := m, isShutdown := false, exports := true, loader := modInit }
  | fail {rest} (at' : w.loader = .check :: rest) :
      Step w .fail { w with exports := false, loader := [.unlock] }
  | act {a rest} (at' : w.loader = a :: rest) (ready : w.Ready a) :
      Step w (.act a) { w.perform a with loader := rest }
  | release {m} (idle : w.loader = []) (up : w.isShutdown = false)
      (locked : w.lock.lock none = some m) :
      Step w .release { w with isShutdown := true, loader := modRelease }
  | releaseAgain {m} (idle : w.loader = []) (down : w.isShutdown = true)
      (locked : w.lock.lock none = some m) : Step w .release w
  | begin {t} (at' : w.workers t = .serving) :
      Step w (.begin t)
        { (w.use t.serves).setWorker t .working with
          assertFailed := w.assertFailed || (t = .evtcRpcClient && w.isShutdown) }
  | work {t} (at' : w.workers t = .working) : Step w (.work t) (w.use .eventProcessor)
  | finish {t} (at' : w.workers t = .working) : Step w (.finish t) (w.setWorker t .serving)
  | stop {t} (at' : w.workers t = .serving) (stopping : w.stopping t = true) :
      Step w (.stop t) ((w.use t.serves).setWorker t .returned)

end ArcdpsHealing.Exports
