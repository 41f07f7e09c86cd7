import ArcdpsHealing.Lib.Ownership
import ArcdpsHealing.Lib.Run
import ArcdpsHealing.Lib.Timer
import ArcdpsHealing.Settings.Options
import ArcdpsHealing.Stats.Collection
import ArcdpsHealing.Stats.LiveSkills

namespace ArcdpsHealing.Offloaded

open Lib Lib.Transaction Processor Settings Stats

/-- `MAX_AGGREGATION_SOURCES` is `HEAL_WINDOW_COUNT`. -/
abbrev Window := Fin healWindowCount

/-- `AGGREGATION_INTERVAL_MS` -/
def aggregationInterval : Nat := 1000

/-- What the callback copies from the options, and how often it did before. -/
structure Sources where
  options : Window → HealWindowOptions
  debugMode : Bool
  round : Nat

/-- The collection of what `GetState` returns, which has an entry of self. -/
def aggregated (p : EventProcessor) (env : Ambient) (options : HealWindowOptions)
    (debugMode : Bool) : AggregatedStatsCollection where
  peerStates := (getState p env 0).2
  localUniqueId := (getState p env 0).1
  known := Std.ExtTreeMap.mem_insert_self
  mOptions := options
  mDebugMode := debugMode

/-- A collection on the heap, with the round that it is from. -/
structure Collection (H : Type) where
  address : H
  round : Nat
  stats : AggregatedStatsCollection

/-- Where `Serve` stands, with its locals. -/
inductive Phase (H : Type)
  | test
  | callback
  | loop (i : Nat) (x : Sources)
  | exchange (i : Window) (x : Sources) (collection : Option (Collection H))
  | delete (i : Window) (x : Sources) (old : Option (Collection H))
  | setTimer
  | wait (since : Nat)
  | returned

/-- Where `Display_GUI` stands. -/
inductive Frame (H : Type)
  | idle
  | loop (i : Nat)
  | exchange (i : Window)
  | assign (i : Window) (newAggregatedStats : Option (Collection H))
  | display (i : Window)

/-- Where `mod_release` stands. -/
inductive Release
  | running
  | wake
  | join
  | destroyed
  | unloaded
  deriving DecidableEq

/-- `HealWindowContext` -/
structure HealWindowContext (H : Type) where
  options : HealWindowOptions
  currentAggregatedStats : Option (Collection H) := none
  selfUniqueId : UInt64 := 0

structure World (H : Type) where
  mIsShutdown : Bool := false
  mTimer : Timer := {}
  mAggregatedWindows : Window → Option (Collection H) := fun _ => none
  serve : Phase H := .test
  windows : Window → HealWindowContext H
  debugMode : Bool
  frame : Frame H := .idle
  release : Release := .running
  callbacks : List Sources := []
  history : List (Transaction H) := []

def World.initial (H : Type) (options : Window → HealWindowOptions) (debugMode : Bool) :
    World H where
  windows i := { options := options i }
  debugMode := debugMode

def delete {H : Type} (history : List (Transaction H)) (c : Option (Collection H)) :
    List (Transaction H) :=
  history ++ (c.map fun c => .released c.address).toList

inductive Label (H : Type)
  | callback (x : Sources)
  | exchange (i : Window) (collection : Option (Collection H))
  | serve
  | take (i : Window) (val : Collection H)
  | toggle (i : Window)
  | closeButton (i : Window)
  | reset
  | gui
  | release
  | tick

namespace World

variable {H : Type}

/-- `getHealWindowOptions` -/
def sources (w : World H) : Sources where
  options i := (w.windows i).options
  debugMode := w.debugMode
  round := w.callbacks.length

def setShown (o : HealWindowOptions) (shown : Bool) : HealWindowOptions := { o with shown := shown }

def setWindow (w : World H) (i : Window) (c : HealWindowContext H) : World H :=
  { w with windows := Function.update w.windows i c }

def setSlot (w : World H) (i : Window) (c : Option (Collection H)) : World H :=
  { w with mAggregatedWindows := Function.update w.mAggregatedWindows i c }

/-- The hotkey of a window, or its box among the options. A window that is
shown again wakes the thread, and one that is hidden drops what it has. -/
def toggle (w : World H) (i : Window) : World H :=
  if (w.windows i).options.shown = false then
    { w.setWindow i { w.windows i with options := setShown (w.windows i).options true } with
      mTimer := w.mTimer.set 0 }
  else
    { w.setWindow i
        { w.windows i with
          options := setShown (w.windows i).options false
          currentAggregatedStats := none } with
      history := delete w.history (w.windows i).currentAggregatedStats }

section Toggle

variable (w : World H) (i : Window)

@[simp] theorem release_toggle : (w.toggle i).release = w.release := by
  unfold toggle
  split <;> rfl

@[simp] theorem serve_toggle : (w.toggle i).serve = w.serve := by
  unfold toggle
  split <;> rfl

@[simp] theorem frame_toggle : (w.toggle i).frame = w.frame := by
  unfold toggle
  split <;> rfl

@[simp] theorem slots_toggle : (w.toggle i).mAggregatedWindows = w.mAggregatedWindows := by
  unfold toggle
  split <;> rfl

@[simp] theorem isShutdown_toggle : (w.toggle i).mIsShutdown = w.mIsShutdown := by
  unfold toggle
  split <;> rfl

@[simp] theorem callbacks_toggle : (w.toggle i).callbacks = w.callbacks := by
  unfold toggle
  split <;> rfl

theorem timer_toggle : (w.toggle i).mTimer =
    if (w.windows i).options.shown then w.mTimer else w.mTimer.set 0 := by
  unfold toggle
  cases (w.windows i).options.shown <;> rfl

theorem windows_toggle : (w.toggle i).windows = Function.update w.windows i
    { w.windows i with
      options := setShown (w.windows i).options !(w.windows i).options.shown
      currentAggregatedStats :=
        if (w.windows i).options.shown then none else (w.windows i).currentAggregatedStats } := by
  unfold toggle
  cases (w.windows i).options.shown <;> rfl

end Toggle

/-- `std::unique_ptr` deletes what it had. -/
def assign (w : World H) (i : Window) (val : Collection H) : World H :=
  let c := w.windows i
  { w.setWindow i
      { c with currentAggregatedStats := some val, selfUniqueId := val.stats.localUniqueId } with
    history := delete w.history c.currentAggregatedStats }

/-- `HealTableOptions::Reset` destroys the windows, the last one first, and builds
them anew. -/
def reset (w : World H) : World H :=
  { w with
    windows := fun i => { options := freshWindow i }
    debugMode := false
    history := (List.finRange healWindowCount).reverse.foldl
      (fun history i => delete history (w.windows i).currentAggregatedStats) w.history }

/-- `~OffloadedStatsAggregation` -/
def destroy (w : World H) : World H :=
  { w with
    mAggregatedWindows := fun _ => none
    history := (List.finRange healWindowCount).foldl
      (fun history i => delete history (w.mAggregatedWindows i)) w.history }

def unload (w : World H) : World H :=
  { w with
    windows := fun i => { w.windows i with currentAggregatedStats := none }
    history := (List.finRange healWindowCount).foldl
      (fun history i => delete history (w.windows i).currentAggregatedStats) w.history }

end World

variable {H : Type} [DecidableEq H]

/-- Whoever uses the options has locked `HEAL_TABLE_OPTIONS_MUTEX`, which a
frame keeps to its end. A relaxed load may return what was there before. -/
inductive Step (w : World H) : Label H → World H → Prop
  | isShutdown (at' : w.serve = .test) (set : w.mIsShutdown = true) :
      Step w .serve { w with serve := .returned }
  | goOn (at' : w.serve = .test) (unset : w.mIsShutdown = false) :
      Step w .serve { w with serve := .callback }
  | callback (at' : w.serve = .callback) (free : w.frame = .idle) :
      Step w (.callback w.sources)
        { w with serve := .loop 0 w.sources, callbacks := w.callbacks ++ [w.sources] }
  | hidden {i : Window} {x} (at' : w.serve = .loop i x) (hidden : (x.options i).shown = false) :
      Step w .serve { w with serve := .exchange i x none }
  | aggregate {i : Window} {x address} (p : EventProcessor) (env : Ambient)
      (at' : w.serve = .loop i x) (shown : (x.options i).shown = true)
      (fresh : ¬ Outstanding w.history address) :
      Step w .serve
        { w with
          serve := .exchange i x
            (some ⟨address, x.round, aggregated p env (x.options i) x.debugMode⟩)
          history := w.history ++ [.obtained address] }
  | exchange {i x collection} (at' : w.serve = .exchange i x collection) :
      Step w (.exchange i collection)
        { w.setSlot i collection with serve := .delete i x (w.mAggregatedWindows i) }
  | delete {i x old} (at' : w.serve = .delete i x old) :
      Step w .serve { w with serve := .loop (i + 1) x, history := delete w.history old }
  | loopEnd {i x} (at' : w.serve = .loop i x) (all : healWindowCount ≤ i) :
      Step w .serve { w with serve := .setTimer }
  | setTimer (at' : w.serve = .setTimer) :
      Step w .serve
        { w with serve := .wait w.mTimer.now, mTimer := w.mTimer.set aggregationInterval }
  | wait {since} (at' : w.serve = .wait since) (signalled : w.mTimer.signalled = true) :
      Step w .serve { w with serve := .test, mTimer := w.mTimer.take }
  | tick : Step w .tick { w with mTimer := w.mTimer.tick }
  | toggle {i} (running : w.release = .running) (free : w.frame = .idle) :
      Step w (.toggle i) (w.toggle i)
  | reset (running : w.release = .running) (free : w.frame = .idle) : Step w .reset w.reset
  | configure {i o} (running : w.release = .running)
      (same : o.shown = (w.windows i).options.shown) :
      Step w .gui (w.setWindow i { w.windows i with options := o })
  | debugMode {b} (running : w.release = .running) : Step w .gui { w with debugMode := b }
  | frame (running : w.release = .running) (free : w.frame = .idle) :
      Step w .gui { w with frame := .loop 0 }
  | frameEnd {i} (at' : w.frame = .loop i) (all : healWindowCount ≤ i) :
      Step w .gui { w with frame := .idle }
  | notShown {i : Window} (at' : w.frame = .loop i)
      (hidden : (w.windows i).options.shown = false) : Step w .gui { w with frame := .loop (i + 1) }
  | fastPath {i : Window} (at' : w.frame = .loop i)
      (shown : (w.windows i).options.shown = true) : Step w .gui { w with frame := .assign i none }
  | load {i : Window} (at' : w.frame = .loop i)
      (shown : (w.windows i).options.shown = true) : Step w .gui { w with frame := .exchange i }
  | take {i val} (at' : w.frame = .exchange i) (there : w.mAggregatedWindows i = some val) :
      Step w (.take i val) { w.setSlot i none with frame := .assign i (some val) }
  | gone {i} (at' : w.frame = .exchange i) (null : w.mAggregatedWindows i = none) :
      Step w .gui { w with frame := .assign i none }
  | assign {i val} (at' : w.frame = .assign i (some val)) :
      Step w .gui { w.assign i val with frame := .display i }
  | keep {i} (at' : w.frame = .assign i none)
      (there : (w.windows i).currentAggregatedStats.isSome = true) :
      Step w .gui { w with frame := .display i }
  | notAggregated {i : Window} (at' : w.frame = .assign i none)
      (null : (w.windows i).currentAggregatedStats = none) :
      Step w .gui { w with frame := .loop (i + 1) }
  | display {i : Window} (at' : w.frame = .display i) :
      Step w .gui { w with frame := .loop (i + 1) }
  | closeButton {i : Window} (at' : w.frame = .display i) :
      Step w (.closeButton i)
        { w.setWindow i
            { w.windows i with options := World.setShown (w.windows i).options false } with
          frame := .loop (i + 1) }
  | store (running : w.release = .running) (free : w.frame = .idle) :
      Step w .release { w with mIsShutdown := true, release := .wake }
  | wake (at' : w.release = .wake) :
      Step w .release { w with release := .join, mTimer := w.mTimer.set 0 }
  | destroy (joined : w.release = .join) (returned : w.serve = .returned) :
      Step w .release { w.destroy with release := .destroyed }
  | unload (at' : w.release = .destroyed) :
      Step w .release { w.unload with release := .unloaded }

section Hidden

variable {s w : World H} {ls : List (Label H)}

theorem round_hidden (run : Run Step s ls w) {i : Nat} {x : Sources} (at' : w.serve = .loop i x)
    (le : i ≤ healWindowCount)
    (hidden : ∀ j : Window, i ≤ j → (x.options j).shown = false ∧ w.mAggregatedWindows j = none) :
    ∃ ls, Run Step s ls { w with serve := .setTimer } := by
  -- A round goes past windows that are hidden and empty.
  induction left : healWindowCount - i generalizing ls w i with
  | zero => exact ⟨_, run.snoc (.loopEnd at' (Nat.le_of_sub_eq_zero left))⟩
  | succ n ih =>
    have window : i < healWindowCount := by omega
    obtain ⟨shown, empty⟩ := hidden ⟨i, window⟩ le_rfl
    let j : Window := ⟨i, window⟩
    have first : Step w .serve { w with serve := .exchange j x none } :=
      .hidden (i := j) at' shown
    have second : Step { w with serve := .exchange j x none } (.exchange j none)
        { w with serve := .delete j x none } := by
      convert Step.exchange (w := { w with serve := .exchange j x none }) rfl using 1
      simp [World.setSlot, ← empty, j]
    have third : Step { w with serve := .delete j x none } .serve
        { w with serve := .loop (i + 1) x } := by
      convert Step.delete (w := { w with serve := .delete j x none }) rfl using 1
      simp [Offloaded.delete, j]
    have next := ((run.snoc first).snoc second).snoc third
    obtain ⟨ls, rest⟩ :=
      ih next rfl window (fun j after => hidden j (Nat.le_of_succ_le after)) (by omega)
    exact ⟨ls, rest⟩

theorem frame_hidden (run : Run Step s ls w) {i : Nat} (at' : w.frame = .loop i)
    (le : i ≤ healWindowCount)
    (hidden : ∀ j : Window, i ≤ j → (w.windows j).options.shown = false) :
    ∃ ls, Run Step s ls { w with frame := .idle } := by
  induction left : healWindowCount - i generalizing ls w i with
  | zero => exact ⟨_, run.snoc (.frameEnd at' (Nat.le_of_sub_eq_zero left))⟩
  | succ n ih =>
    have window : i < healWindowCount := by omega
    have first : Step w .gui { w with frame := .loop (i + 1) } :=
      .notShown (i := ⟨i, window⟩) at' (hidden ⟨i, window⟩ le_rfl)
    have next := run.snoc first
    obtain ⟨ls, rest⟩ :=
      ih next rfl window (fun j after => hidden j (Nat.le_of_succ_le after)) (by omega)
    exact ⟨ls, rest⟩

end Hidden

end ArcdpsHealing.Offloaded
