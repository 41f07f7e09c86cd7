import ArcdpsHealing.Offloaded.Ownership
import Mathlib.Data.Finset.Basic
import Mathlib.Data.Fintype.EquivFin

namespace ArcdpsHealing.Offloaded

open Lib Lib.Transaction Settings Stats Processor

variable {H : Type}

def Label.isServe : Label H → Bool
  | .callback _ | .exchange _ _ | .serve => true
  | _ => false

def serveSteps (ls : List (Label H)) : Nat := ls.countP Label.isServe

def Phase.remaining : Phase H → Nat
  | .returned => 0
  | .test => 1
  | .wait _ => 2
  | .setTimer => 3
  | .loop i _ => 4 + 3 * (healWindowCount - i)
  | .delete i _ _ => 2 + 3 * (healWindowCount - i)
  | .exchange i _ _ => 3 + 3 * (healWindowCount - i)
  | .callback => 5 + 3 * healWindowCount

theorem Phase.remaining_le (phase : Phase H) : phase.remaining ≤ 5 + 3 * healWindowCount := by
  unfold remaining
  split <;> omega

variable [DecidableEq H] {l : Label H} {w w' : World H}

theorem Step.remaining (step : Step w l w') (shutdown : w.mIsShutdown = true) :
    w'.mIsShutdown = true ∧
      (if l.isServe then 1 else 0) + w'.serve.remaining = w.serve.remaining := by
  cases step with
  | goOn at' unset => cases shutdown.symm.trans unset
  | isShutdown at' | setTimer at' | wait at' =>
    refine ⟨shutdown, ?_⟩
    rw [at']
    rfl
  | callback at' | hidden at' | aggregate _ _ at' =>
    refine ⟨shutdown, ?_⟩
    rw [at']
    simp only [Label.isServe, Phase.remaining, ↓reduceIte]
    omega
  | @exchange i x collection at' | @delete i x old at' =>
    refine ⟨shutdown, ?_⟩
    have := i.isLt
    rw [at']
    simp only [Label.isServe, Phase.remaining, ↓reduceIte]
    omega
  | loopEnd at' all =>
    refine ⟨shutdown, ?_⟩
    rw [at']
    simp only [Label.isServe, Phase.remaining, ↓reduceIte]
    omega
  | toggle => exact ⟨by simpa using shutdown, by simp [Label.isServe]⟩
  | store => exact ⟨rfl, Nat.zero_add _⟩
  | _ => exact ⟨shutdown, Nat.zero_add _⟩

structure Waiting (w : World H) : Prop where
  ends : ∀ since, w.serve = .wait since → w.mTimer.EndsBy (since + aggregationInterval)
  release : w.mIsShutdown = true → w.release ≠ .running

omit [DecidableEq H] in
theorem Waiting.initial {options : Window → HealWindowOptions} {debugMode : Bool} :
    Waiting (World.initial H options debugMode) where
  ends since at' := by cases at'
  release shutdown := by cases shutdown

theorem Waiting.step (waiting : Waiting w) (step : Step w l w') : Waiting w' := by
  obtain ⟨ends, release⟩ := waiting
  cases step with
  | setTimer =>
    refine ⟨fun since at' => ?_, release⟩
    cases at'
    exact Timer.endsBy_set _
  | tick => exact ⟨fun since at' => (ends since at').tick, release⟩
  | @toggle i running =>
    refine ⟨fun since at' => ?_, by simpa using release⟩
    rw [World.timer_toggle]
    split
    · exact ends since (by simpa using at')
    · exact Timer.endsBy_set_zero
  | wake => exact ⟨fun _ _ => Timer.endsBy_set_zero, fun _ here => by cases here⟩
  | store | destroy | unload => exact ⟨ends, fun _ here => by cases here⟩
  | isShutdown | goOn | callback | hidden | aggregate | exchange | delete | loopEnd | wait =>
    refine ⟨fun since at' => ?_, release⟩
    cases at'
  | _ => exact ⟨ends, release⟩

theorem exists_fresh [Infinite H] (history : List (Transaction H)) :
    ∃ a, ¬ Outstanding history a := by
  let obtained : List H := history.filterMap fun
    | .obtained a => some a
    | .released _ => none
  obtain ⟨a, fresh⟩ := Infinite.exists_notMem_finset obtained.toFinset
  refine ⟨a, fun outstanding => fresh ?_⟩
  have mem : Transaction.obtained a ∈ history := by
    rw [← List.count_pos_iff]
    exact Nat.zero_lt_of_lt outstanding
  exact List.mem_toFinset.mpr (List.mem_filterMap.mpr ⟨_, mem, rfl⟩)

theorem progress [Infinite H] (w : World H) :
    w.serve = .returned ∨ (∃ l w', l.isServe = true ∧ Step w l w') ∨
      (w.serve = .callback ∧ w.frame ≠ .idle) ∨
      ∃ since, w.serve = .wait since ∧ w.mTimer.signalled = false := by
  -- `Serve` waits for nothing but its timer and the mutex of the options.
  cases at' : w.serve with
  | returned => exact .inl rfl
  | test =>
    cases flag : w.mIsShutdown with
    | true => exact .inr (.inl ⟨_, _, rfl, .isShutdown at' flag⟩)
    | false => exact .inr (.inl ⟨_, _, rfl, .goOn at' flag⟩)
  | callback =>
    by_cases free : w.frame = .idle
    · exact .inr (.inl ⟨_, _, rfl, .callback at' free⟩)
    · exact .inr (.inr (.inl ⟨rfl, free⟩))
  | loop i x =>
    rcases Nat.lt_or_ge i healWindowCount with window | all
    · cases shown : (x.options ⟨i, window⟩).shown with
      | false => exact .inr (.inl ⟨_, _, rfl, .hidden (i := ⟨i, window⟩) at' shown⟩)
      | true =>
        obtain ⟨a, fresh⟩ := exists_fresh w.history
        exact .inr (.inl ⟨_, _, rfl, .aggregate (i := ⟨i, window⟩) {} {} at' shown fresh⟩)
    · exact .inr (.inl ⟨_, _, rfl, .loopEnd at' all⟩)
  | exchange i x collection => exact .inr (.inl ⟨_, _, rfl, .exchange at'⟩)
  | delete i x old => exact .inr (.inl ⟨_, _, rfl, .delete at'⟩)
  | setTimer => exact .inr (.inl ⟨_, _, rfl, .setTimer at'⟩)
  | wait since =>
    cases signalled : w.mTimer.signalled with
    | true => exact .inr (.inl ⟨_, _, rfl, .wait at' signalled⟩)
    | false => exact .inr (.inr (.inr ⟨since, rfl, rfl⟩))

section Runs

variable {options : Window → HealWindowOptions} {debugMode : Bool} {ls ms : List (Label H)}

theorem remaining_run (run : Run Step w ms w') (shutdown : w.mIsShutdown = true) :
    w'.mIsShutdown = true ∧ serveSteps ms + w'.serve.remaining = w.serve.remaining := by
  refine run.history
    (P := fun ms w' => w'.mIsShutdown = true ∧
      serveSteps ms + w'.serve.remaining = w.serve.remaining)
    (fun _ => True) (fun {ms t l u} before _ step => ?_) ⟨shutdown, Nat.zero_add _⟩
    fun _ _ => trivial
  obtain ⟨flag, count⟩ := step.remaining before.1
  refine ⟨flag, ?_⟩
  have last : serveSteps (ms ++ [l]) = serveSteps ms + if l.isServe then 1 else 0 := by
    simp [serveSteps, List.countP_append, List.countP_singleton]
  rw [last, Nat.add_assoc, count, before.2]

/-- Once the flag is set, `Serve` has a bounded number of steps left in every
run, of which none waits for anything but a timer that is due within the
interval, also where the wake-up has been lost to the timer being set again. -/
theorem returns_after_shutdown [Infinite H]
    (before : Run Step (World.initial H options debugMode) ls w) (shutdown : w.mIsShutdown = true)
    (after : Run Step w ms w') :
    serveSteps ms + w'.serve.remaining = w.serve.remaining ∧
      w.serve.remaining ≤ 5 + 3 * healWindowCount ∧
      (w'.serve = .returned ∨ (∃ l w'', l.isServe = true ∧ Step w' l w'') ∨
        ∃ since, w'.serve = .wait since ∧ w'.mTimer.now < since + aggregationInterval) := by
  have run := before.trans after
  have waiting : Waiting w' :=
    run.invariant (fun _ => True) (fun before _ step => before.step step) .initial
      fun _ _ => trivial
  have closing : Closing w' :=
    run.invariant (fun _ => True) (fun before _ step => before.step step) .initial
      fun _ _ => trivial
  obtain ⟨flag, count⟩ := remaining_run after shutdown
  refine ⟨count, Phase.remaining_le _, ?_⟩
  rcases progress w' with returned | steps | ⟨-, busy⟩ | ⟨since, at', silent⟩
  · exact .inl returned
  · exact .inr (.inl steps)
  · exact absurd (closing.frame (waiting.release flag)) busy
  · refine .inr (.inr ⟨since, at', Nat.lt_of_not_le fun late => ?_⟩)
    rw [(waiting.ends since at').signalled late] at silent
    cases silent

theorem returns_after_shutdown_late : ∃ ls w ms w',
    Run Step (World.initial Nat (fun _ => {}) false) ls w ∧ w.mIsShutdown = true ∧
      Run Step w ms w' ∧ serveSteps ms = 1 ∧ w'.serve.remaining + 1 = w.serve.remaining := by
  obtain ⟨ls, w, before, shutdown, at', free⟩ : ∃ ls w,
      Run Step (World.initial Nat (fun _ => {}) false) ls w ∧ w.mIsShutdown = true ∧
        w.serve = .callback ∧ w.frame = .idle :=
    ⟨_, _, (Run.nil.snoc (.goOn rfl rfl)).snoc (.store rfl rfl), rfl, rfl, rfl⟩
  have after := Run.nil.snoc (Step.callback at' free)
  exact ⟨ls, w, _, _, before, shutdown, after, rfl,
    (Nat.add_comm _ _).trans (returns_after_shutdown before shutdown after).1⟩

end Runs

end ArcdpsHealing.Offloaded
