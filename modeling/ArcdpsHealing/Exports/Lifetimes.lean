import ArcdpsHealing.Exports.Lifecycle

/-! Nothing is used before it is made or after it is gone, if `mod_init` works. -/

namespace ArcdpsHealing.Exports

open Lib

variable {w w' : World} {l : Label} {ls : List Label} {a : Action} {rest : List Action} {k : Nat}
  {e : Export} {o : Object} {t : Thread}

section Programs

def Action.StartsWith (rest : List Action) : Action → Prop
  | .make o => .make o ∉ rest ∧ rest ≠ []
  | .check => rest = modInit.drop 2
  | .use o => .make o ∉ rest ∧ rest ≠ []
  | .unlock => rest = []
  | .shutdown _ => False
  | .join _ => False
  | .reset _ => False

theorem startsWith (suffix : a :: rest <:+ modInit) : a.StartsWith rest := by
  simp only [modInit, List.suffix_cons_iff, List.cons.injEq, List.suffix_nil, reduceCtorEq,
    or_false] at suffix
  rcases suffix with ⟨rfl, rfl⟩ | ⟨rfl, rfl⟩ | ⟨rfl, rfl⟩ | ⟨rfl, rfl⟩ | ⟨rfl, rfl⟩ | ⟨rfl, rfl⟩ |
    ⟨rfl, rfl⟩ | ⟨rfl, rfl⟩ | ⟨rfl, rfl⟩ | ⟨rfl, rfl⟩ | ⟨rfl, rfl⟩ | ⟨rfl, rfl⟩ <;>
    simp [Action.StartsWith, modInit]

def Action.StopsWith (rest : List Action) : Action → Prop
  | .make _ => False
  | .check => False
  | .use _ => False
  | .unlock => False
  | .shutdown t => .shutdown t ∉ rest ∧ .reset t.serves ∈ rest ∧ rest ≠ []
  | .join t => .shutdown t ∉ rest ∧ .reset t.object ∈ rest ∧ rest ≠ []
  | .reset o => .reset o ∉ rest

theorem stopsWith (suffix : a :: rest <:+ modRelease) : a.StopsWith rest := by
  simp only [modRelease, List.suffix_cons_iff, List.cons.injEq, List.suffix_nil, reduceCtorEq,
    or_false] at suffix
  rcases suffix with ⟨rfl, rfl⟩ | ⟨rfl, rfl⟩ | ⟨rfl, rfl⟩ | ⟨rfl, rfl⟩ | ⟨rfl, rfl⟩ | ⟨rfl, rfl⟩ |
    ⟨rfl, rfl⟩ | ⟨rfl, rfl⟩ | ⟨rfl, rfl⟩ | ⟨rfl, rfl⟩ | ⟨rfl, rfl⟩ <;>
    simp [Action.StopsWith, Thread.serves, Thread.object]

theorem reset_of_join (suffix : rest <:+ modRelease) (joins : .join t ∈ rest) :
    .reset t.object ∈ rest ∧ .reset t.serves ∈ rest ∧ .reset .eventProcessor ∈ rest := by
  have all : ∀ rest ∈ modRelease.tails, ∀ t ∈ [Thread.evtcRpcClient, .offloadedStatsAggregation],
      .join t ∈ rest →
        .reset t.object ∈ rest ∧ .reset t.serves ∈ rest ∧ .reset .eventProcessor ∈ rest := by
    decide
  exact all rest ((List.mem_tails _ _).mpr suffix) t (by cases t <;> decide) joins

theorem made_of_thread (suffix : rest <:+ modInit) (made : .make t.object ∉ rest) :
    .make t.serves ∉ rest ∧ .make .eventProcessor ∉ rest := by
  have all : ∀ rest ∈ modInit.tails, ∀ t ∈ [Thread.evtcRpcClient, .offloadedStatsAggregation],
      .make t.object ∉ rest → .make t.serves ∉ rest ∧ .make .eventProcessor ∉ rest := by
    decide
  exact all rest ((List.mem_tails _ _).mpr suffix) t (by cases t <;> decide) made

theorem make_mem (o : Object) : .make o ∈ modInit := by cases o <;> decide

theorem make_mem_check (o : Object) : .make o ∉ .check :: modInit.drop 2 ↔ o = .updateChecker := by
  cases o <;> decide

theorem reset_mem (o : Object) : .reset o ∈ modRelease := by cases o <;> decide

theorem shutdown_join_mem (t : Thread) : .shutdown t ∈ modRelease ∧ .join t ∈ modRelease := by
  cases t <;> decide

end Programs

/-- Where a run can be. After a failed start, `mod_release` uses what was never
made and waits for threads that were never started. -/
inductive Stage (w : World) : Prop
  | down (loader : w.loader = []) (isShutdown : w.isShutdown = true) (sound : w.undefined = false)
      (alive : ∀ o, w.alive o = false) (workers : ∀ t, w.workers t = .none)
  | starting (suffix : w.loader <:+ modInit) (busy : w.loader ≠ [])
      (isShutdown : w.isShutdown = false) (exports : w.exports = true)
      (sound : w.undefined = false) (owned : w.lock.Owns none)
      (alive : ∀ o, w.alive o = true ↔ .make o ∉ w.loader)
      (workers : ∀ t, w.workers t = .none ↔ .make t.object ∈ w.loader)
  | up (loader : w.loader = []) (isShutdown : w.isShutdown = false) (exports : w.exports = true)
      (sound : w.undefined = false) (alive : ∀ o, w.alive o = true)
      (workers : ∀ t, w.workers t ≠ .none)
  | failed (loader : w.loader = [] ∨ w.loader = [.unlock] ∧ w.lock.Owns none)
      (isShutdown : w.isShutdown = false) (exports : w.exports = false)
      (sound : w.undefined = false) (alive : ∀ o, w.alive o = true ↔ o = .updateChecker)
      (workers : ∀ t, w.workers t = .none)
  | stopping (suffix : w.loader <:+ modRelease) (busy : w.loader ≠ [])
      (isShutdown : w.isShutdown = true) (exports : w.exports = true)
      (sound : w.undefined = false) (alive : ∀ o, w.alive o = true ↔ .reset o ∈ w.loader)
      (joined : ∀ t, .join t ∉ w.loader → w.workers t = .none ∨ w.workers t = .returned)
      (asked : ∀ t, .shutdown t ∉ w.loader → w.stopping t = true ∨ w.workers t = .none)
      (gone : ∀ t, w.workers t = .none ↔ .reset t.object ∉ w.loader)
  | stuck (suffix : w.loader <:+ modRelease) (waits : .join .evtcRpcClient ∈ w.loader)
      (isShutdown : w.isShutdown = true) (exports : w.exports = false)
      (used : w.undefined = true ↔ w.loader ≠ modRelease)
      (alive : w.alive .evtcRpcClient = false) (workers : ∀ t, w.workers t = .none)

namespace Stage

theorem idle (stage : Stage w) (up : w.isShutdown = false) (free : ¬ w.lock.Owns none) :
    w.loader = [] := by
  cases stage with
  | down loader => exact loader
  | starting suffix busy isShutdown exports sound owned => exact absurd owned free
  | up loader => exact loader
  | failed loader => exact loader.resolve_right fun both => free both.2
  | stopping suffix busy isShutdown => exact absurd (isShutdown.symm.trans up) (by decide)
  | stuck suffix waits isShutdown => exact absurd (isShutdown.symm.trans up) (by decide)

theorem alive_of_up (stage : Stage w) (loader : w.loader = []) (up : w.isShutdown = false)
    (exports : w.exports = true) (o : Object) : w.alive o = true := by
  cases stage with
  | down loader isShutdown => exact absurd (isShutdown.symm.trans up) (by decide)
  | starting suffix busy => exact absurd loader busy
  | up _ _ _ _ alive => exact alive o
  | failed _ _ exports' => exact absurd (exports'.symm.trans exports) (by decide)
  | stopping suffix busy => exact absurd loader busy
  | stuck suffix waits =>
    rw [loader] at waits
    cases waits

theorem alive_of_worker (stage : Stage w)
    (running : w.workers t = .serving ∨ w.workers t = .working) :
    w.alive t.serves = true ∧ w.alive .eventProcessor = true := by
  have started : w.workers t ≠ .none := by
    rintro none
    rw [none] at running
    obtain ⟨⟨⟩⟩ | ⟨⟨⟩⟩ := running
  cases stage with
  | down _ _ _ _ workers => exact absurd (workers t) started
  | starting suffix _ _ _ _ _ alive workers =>
    rw [alive, alive]
    exact made_of_thread suffix fun making => started ((workers t).mpr making)
  | up _ _ _ _ alive => exact ⟨alive _, alive _⟩
  | failed _ _ _ _ _ workers => exact absurd (workers t) started
  | stopping suffix _ _ _ _ alive joined =>
    rw [alive, alive]
    refine (reset_of_join suffix ?_).2
    by_contra gone
    obtain none | returned := joined t gone
    · exact started none
    · rw [returned] at running
      obtain ⟨⟨⟩⟩ | ⟨⟨⟩⟩ := running
  | stuck _ _ _ _ _ _ workers => exact absurd (workers t) started

structure Keeps (w w' : World) : Prop where
  loader : w'.loader = w.loader
  isShutdown : w'.isShutdown = w.isShutdown
  exports : w'.exports = w.exports
  undefined : w'.undefined = w.undefined
  alive : w'.alive = w.alive
  owned : w.lock.Owns none → w'.lock.Owns none
  stopping : w'.stopping = w.stopping
  workers : ∀ t, w'.workers t = w.workers t ∨
    (w.workers t = .serving ∨ w.workers t = .working) ∧ w'.workers t ≠ .none

theorem keep (stage : Stage w) (keeps : Keeps w w') : Stage w' := by
  obtain ⟨loader, isShutdown, exports, undefined, alive, owned, stopping, workers⟩ := keeps
  have none (t : Thread) : w'.workers t = .none ↔ w.workers t = .none := by
    obtain same | ⟨serving | working, started⟩ := workers t
    · rw [same]
    · exact iff_of_false started (by rw [serving]; rintro ⟨⟩)
    · exact iff_of_false started (by rw [working]; rintro ⟨⟩)
  have returned (t : Thread) (before : w.workers t = .returned) : w'.workers t = .returned := by
    obtain same | ⟨serving | working, -⟩ := workers t
    · exact same.trans before
    · cases before.symm.trans serving
    · cases before.symm.trans working
  cases stage with
  | down h1 h2 h3 h4 h5 =>
    exact .down (loader.trans h1) (isShutdown.trans h2) (undefined.trans h3)
      (fun o => (congrFun alive o).trans (h4 o)) fun t => (none t).mpr (h5 t)
  | starting h1 h2 h3 h4 h5 h6 h7 h8 =>
    refine .starting (loader ▸ h1) (loader ▸ h2) (isShutdown.trans h3) (exports.trans h4)
      (undefined.trans h5) (owned h6) ?_ ?_
    · rw [loader, alive]
      exact h7
    · rw [loader]
      exact fun t => (none t).trans (h8 t)
  | up h1 h2 h3 h4 h5 h6 =>
    exact .up (loader.trans h1) (isShutdown.trans h2) (exports.trans h3) (undefined.trans h4)
      (fun o => (congrFun alive o).trans (h5 o)) fun t => (not_congr (none t)).mpr (h6 t)
  | failed h1 h2 h3 h4 h5 h6 =>
    refine .failed ?_ (isShutdown.trans h2) (exports.trans h3) (undefined.trans h4) ?_
      fun t => (none t).mpr (h6 t)
    · rw [loader]
      exact h1.imp_right fun both => ⟨both.1, owned both.2⟩
    · rw [alive]
      exact h5
  | stopping h1 h2 h3 h4 h5 h6 h7 h8 h9 =>
    refine .stopping (loader ▸ h1) (loader ▸ h2) (isShutdown.trans h3) (exports.trans h4)
      (undefined.trans h5) ?_ ?_ ?_ ?_
    · rw [loader, alive]
      exact h6
    · rw [loader]
      exact fun t gone => (h7 t gone).imp (none t).mpr (returned t)
    · rw [loader, stopping]
      exact fun t gone => (h8 t gone).imp_right (none t).mpr
    · rw [loader]
      exact fun t => (none t).trans (h9 t)
  | stuck h1 h2 h3 h4 h5 h6 h7 =>
    refine .stuck (loader ▸ h1) (loader ▸ h2) (isShutdown.trans h3) (exports.trans h4) ?_
      ((congrFun alive _).trans h6) fun t => (none t).mpr (h7 t)
    rw [undefined, loader]
    exact h5

end Stage

structure Inv (w : World) : Prop where
  stage : Stage w
  shares : ∀ k, w.calls k ≠ .idle → w.lock.Shares (some k)
  exported : ∀ k e, w.calls k = .entered e ∨ w.calls k = .inside e →
    w.exports = true ∨ e.isHook = true
  inside : ∀ k e, w.calls k = .inside e → w.isShutdown = false ∧ w.loader = []

namespace Inv

theorem use_alive (w : World) (alive : w.alive o = true) : w.use o = w := by
  unfold World.use
  rw [alive]
  simp

theorem alive_of_inside (inv : Inv w) (at' : w.calls k = .inside e) (mem : o ∈ e.uses) :
    w.alive o = true := by
  obtain ⟨up, loader⟩ := inv.inside k e at'
  obtain exports | hook := inv.exported k e (.inr at')
  · exact inv.stage.alive_of_up loader up exports o
  · rw [Export.uses_of_isHook hook] at mem
    cases mem

theorem worker (inv : Inv w) (running : w.workers t = .serving ∨ w.workers t = .working)
    (worker : Worker) (started : worker ≠ .none) (failed : Bool) :
    Inv { w.setWorker t worker with assertFailed := failed } := by
  refine ⟨inv.stage.keep ⟨rfl, rfl, rfl, rfl, rfl, id, rfl, fun u => ?_⟩, inv.shares, inv.exported,
    inv.inside⟩
  by_cases same : u = t
  · subst same
    refine .inr ⟨running, ?_⟩
    exact fun none => started ((Function.update_self _ _ _).symm.trans none)
  · exact .inl (Function.update_of_ne same _ _)

theorem enter {m : SharedMutex (Option Nat)} (inv : Inv w)
    (exported : w.exports = true ∨ e.isHook = true)
    (locked : w.lock.lockShared (some k) = some m) :
    Inv { w.goto k (.entered e) with lock := m } := by
  have owns : w.lock.Owns none → m.Owns none := (SharedMutex.owns_of_lockShared locked).mpr
  refine ⟨inv.stage.keep ⟨rfl, rfl, rfl, rfl, rfl, owns, rfl, fun t => .inl rfl⟩,
    fun j busy => ?_, fun j f at' => ?_, fun j f at' => ?_⟩
  · refine (SharedMutex.shares_of_lockShared locked).mpr ?_
    by_cases same : j = k
    · exact .inl (congrArg some same)
    · refine .inr (inv.shares j ?_)
      rwa [World.calls_goto, if_neg same] at busy
  · rw [World.calls_goto] at at'
    split at at'
    · obtain ⟨⟨⟩⟩ | ⟨⟨⟩⟩ := at'
      exact exported
    · exact inv.exported j f at'
  · rw [World.calls_goto] at at'
    split at at'
    · cases at'
    · exact inv.inside j f at'

theorem leave (inv : Inv w) (k : Nat) : Inv (w.leave k) := by
  have owns : w.lock.Owns none → (w.lock.unlockShared (some k)).Owns none :=
    SharedMutex.owns_unlockShared.mpr
  have others (j : Nat) (busy : (w.leave k).calls j ≠ .idle) :
      j ≠ k ∧ (w.leave k).calls j = w.calls j := by
    have here : (w.leave k).calls j = if j = k then .idle else w.calls j := w.calls_goto k j .idle
    rw [here] at busy ⊢
    split
    · rename_i same
      rw [if_pos same] at busy
      exact absurd rfl busy
    · rename_i other
      exact ⟨other, rfl⟩
  refine ⟨inv.stage.keep ⟨rfl, rfl, rfl, rfl, rfl, owns, rfl, fun t => .inl rfl⟩,
    fun j busy => ?_, fun j f at' => ?_, fun j f at' => ?_⟩
  · obtain ⟨other, same⟩ := others j busy
    rw [same] at busy
    exact SharedMutex.shares_unlockShared.mpr
      ⟨fun equal => other (Option.some.inj equal), inv.shares j busy⟩
  · have busy : (w.leave k).calls j ≠ .idle := by
      obtain here | here := at' <;> (rw [here]; rintro ⟨⟩)
    rw [(others j busy).2] at at'
    exact inv.exported j f at'
  · rw [(others j (by rw [at']; rintro ⟨⟩)).2] at at'
    exact inv.inside j f at'

theorem accept (inv : Inv w) (at' : w.calls k = .entered e) (up : w.isShutdown = false) :
    Inv (w.goto k (.inside e)) := by
  have shares := inv.shares k (by rw [at']; rintro ⟨⟩)
  have loader := inv.stage.idle up fun owned => owned.not_shares shares
  refine ⟨inv.stage.keep ⟨rfl, rfl, rfl, rfl, rfl, id, rfl, fun t => .inl rfl⟩,
    fun j busy => ?_, fun j f here => ?_, fun j f here => ?_⟩
  · by_cases same : j = k
    · rw [same]
      exact shares
    · rw [World.calls_goto, if_neg same] at busy
      exact inv.shares j busy
  · rw [World.calls_goto] at here
    split at here
    · obtain ⟨⟨⟩⟩ | ⟨⟨⟩⟩ := here
      exact inv.exported k e (.inl at')
    · exact inv.exported j f here
  · rw [World.calls_goto] at here
    split at here
    · exact ⟨up, loader⟩
    · exact inv.inside j f here

theorem quiet (inv : Inv w) (alone : ∀ k, ¬ w.lock.Shares (some k)) (k : Nat) :
    w.calls k = .idle := by
  by_contra busy
  exact alone k (inv.shares k busy)

theorem of_quiet (stage : Stage w) (quiet : ∀ k, w.calls k = .idle) : Inv w := by
  refine ⟨stage, fun k busy => absurd (quiet k) busy, fun k e at' => ?_, fun k e at' => ?_⟩
  · rw [quiet k] at at'
    obtain ⟨⟨⟩⟩ | ⟨⟨⟩⟩ := at'
  · rw [quiet k] at at'
    cases at'

theorem init {m : SharedMutex (Option Nat)} (inv : Inv w) (idle : w.loader = [])
    (down : w.isShutdown = true) (locked : w.lock.lock none = some m) :
    Inv { w with lock := m, isShutdown := false, exports := true, loader := modInit } := by
  refine of_quiet ?_ (inv.quiet fun k => (SharedMutex.not_shares_of_lock locked).1)
  cases inv.stage with
  | down _ _ sound alive workers =>
    refine .starting List.suffix_rfl (by rintro ⟨⟩) rfl rfl sound
      ((SharedMutex.owns_of_lock locked).mpr rfl) (fun o => ?_)
      fun t => iff_of_true (workers t) (make_mem _)
    rw [alive o]
    exact iff_of_false (by rintro ⟨⟩) fun gone => gone (make_mem o)
  | starting _ busy => exact absurd idle busy
  | up _ up => exact absurd (up.symm.trans down) (by decide)
  | failed _ up => exact absurd (up.symm.trans down) (by decide)
  | stopping _ busy => exact absurd idle busy
  | stuck _ waits =>
    rw [idle] at waits
    cases waits

theorem release {m : SharedMutex (Option Nat)} (inv : Inv w) (idle : w.loader = [])
    (up : w.isShutdown = false) (locked : w.lock.lock none = some m) :
    Inv { w with isShutdown := true, loader := modRelease } := by
  refine of_quiet ?_ (inv.quiet fun k => (SharedMutex.not_shares_of_lock locked).1)
  cases inv.stage with
  | down _ down => exact absurd (down.symm.trans up) (by decide)
  | starting _ busy => exact absurd idle busy
  | up _ _ exports sound alive workers =>
    refine .stopping List.suffix_rfl (by rintro ⟨⟩) rfl exports sound (fun o => ?_)
      (fun t here => ?_) (fun t here => ?_) fun t => ?_
    · exact iff_of_true (alive o) (reset_mem o)
    · exact absurd (shutdown_join_mem t).2 here
    · exact absurd (shutdown_join_mem t).1 here
    · exact iff_of_false (workers t) fun gone => gone (reset_mem _)
  | failed _ _ exports sound alive workers =>
    refine .stuck List.suffix_rfl (shutdown_join_mem _).2 rfl exports ?_ ?_ workers
    · rw [sound]
      exact iff_of_false (by rintro ⟨⟩) fun other => other rfl
    · rw [← Bool.not_eq_true, alive]
      rintro ⟨⟩
  | stopping _ busy => exact absurd idle busy
  | stuck _ waits =>
    rw [idle] at waits
    cases waits

theorem fail (inv : Inv w) (at' : w.loader = .check :: rest) :
    Inv { w with exports := false, loader := [.unlock] } := by
  cases inv.stage with
  | starting suffix _ up _ sound owned alive workers =>
    refine of_quiet ?_ (inv.quiet fun k => owned.not_shares)
    rw [at'] at suffix alive workers
    have whole : rest = modInit.drop 2 := startsWith suffix
    subst whole
    refine .failed (.inr ⟨rfl, owned⟩) up rfl sound
      (fun o => (alive o).trans (make_mem_check o)) fun t => (workers t).mpr ?_
    cases t <;> decide
  | down loader => cases at'.symm.trans loader
  | up loader => cases at'.symm.trans loader
  | failed loader =>
    rw [at'] at loader
    obtain ⟨⟨⟩⟩ | ⟨⟨⟩, -⟩ := loader
  | stopping suffix =>
    rw [at'] at suffix
    exact (stopsWith suffix).elim
  | stuck suffix =>
    rw [at'] at suffix
    exact (stopsWith suffix).elim

theorem act_starting (inv : Inv w) (at' : w.loader = a :: rest) (suffix : w.loader <:+ modInit)
    (up : w.isShutdown = false) (exports : w.exports = true) (sound : w.undefined = false)
    (owned : w.lock.Owns none) (alive : ∀ o, w.alive o = true ↔ .make o ∉ w.loader)
    (workers : ∀ t, w.workers t = .none ↔ .make t.object ∈ w.loader) :
    Inv { w.perform a with loader := rest } := by
  have quiet := inv.quiet fun k => owned.not_shares
  rw [at'] at suffix alive workers
  have follows := startsWith suffix
  have shorter : rest <:+ modInit := (List.suffix_cons a rest).trans suffix
  have later {b : Action} (other : b ≠ a) : b ∈ a :: rest ↔ b ∈ rest :=
    List.mem_cons.trans (or_iff_right other)
  cases a with
  | make o =>
    obtain ⟨once, busy⟩ := follows
    refine of_quiet (.starting shorter busy up exports sound owned (fun o' => ?_) fun t => ?_) quiet
    · by_cases same : o' = o
      · subst same
        exact iff_of_true (Function.update_self _ _ _) once
      · refine (congrArg (· = true) (Function.update_of_ne same _ _)).to_iff.trans ?_
        refine (alive o').trans (not_congr (later ?_))
        rintro ⟨⟩
        exact same rfl
    · change (if t.object = o then Worker.serving else w.workers t) = .none ↔ _
      split
      · rename_i same
        exact iff_of_false (by rintro ⟨⟩) (same ▸ once)
      · rename_i other
        refine (workers t).trans (later ?_)
        rintro ⟨⟩
        exact other rfl
  | check =>
    have busy : rest ≠ [] := by
      rw [show rest = modInit.drop 2 from follows]
      decide
    exact of_quiet (.starting shorter busy up exports sound owned
      (fun o => (alive o).trans (not_congr (later (by rintro ⟨⟩))))
      fun t => (workers t).trans (later (by rintro ⟨⟩))) quiet
  | use o =>
    obtain ⟨made, busy⟩ := follows
    have there : w.alive o = true := (alive o).mpr ((not_congr (later (by rintro ⟨⟩))).mpr made)
    rw [World.perform, use_alive w there]
    exact of_quiet (.starting shorter busy up exports sound owned
      (fun o => (alive o).trans (not_congr (later (by rintro ⟨⟩))))
      fun t => (workers t).trans (later (by rintro ⟨⟩))) quiet
  | unlock =>
    have done : rest = [] := follows
    subst done
    have none (o : Object) : .make o ∉ [Action.unlock] := by
      rw [List.mem_singleton]
      rintro ⟨⟩
    exact of_quiet (.up rfl up exports sound (fun o => (alive o).mpr (none o))
      fun t => (not_congr (workers t)).mpr (none _)) quiet
  | shutdown t => exact follows.elim
  | join t => exact follows.elim
  | reset o => exact follows.elim

theorem of_down (inv : Inv w) (stage : Stage w') (down : w.isShutdown = true)
    (calls : w'.calls = w.calls) (lock : w'.lock = w.lock) (exports : w'.exports = w.exports) :
    Inv w' := by
  refine ⟨stage, ?_, ?_, fun k e at' => ?_⟩
  · rw [calls, lock]
    exact inv.shares
  · rw [calls, exports]
    exact inv.exported
  · rw [calls] at at'
    exact absurd ((inv.inside k e at').1.symm.trans down) (by decide)

theorem act_stopping (inv : Inv w) (at' : w.loader = a :: rest) (ready : w.Ready a)
    (suffix : w.loader <:+ modRelease) (down : w.isShutdown = true) (exports : w.exports = true)
    (sound : w.undefined = false) (alive : ∀ o, w.alive o = true ↔ .reset o ∈ w.loader)
    (joined : ∀ t, .join t ∉ w.loader → w.workers t = .none ∨ w.workers t = .returned)
    (asked : ∀ t, .shutdown t ∉ w.loader → w.stopping t = true ∨ w.workers t = .none)
    (gone : ∀ t, w.workers t = .none ↔ .reset t.object ∉ w.loader) :
    Inv { w.perform a with loader := rest } := by
  rw [at'] at suffix alive joined asked gone
  have follows := stopsWith suffix
  have shorter : rest <:+ modRelease := (List.suffix_cons a rest).trans suffix
  have later {b : Action} (other : b ≠ a) : b ∈ a :: rest ↔ b ∈ rest :=
    List.mem_cons.trans (or_iff_right other)
  cases a with
  | make o => exact follows.elim
  | check => exact follows.elim
  | use o => exact follows.elim
  | unlock => exact follows.elim
  | shutdown t =>
    obtain ⟨once, stays, busy⟩ := follows
    have there : w.alive t.serves = true := (alive _).mpr (List.mem_cons_of_mem _ stays)
    rw [World.perform, use_alive w there]
    refine inv.of_down (.stopping shorter busy down exports sound (fun o => ?_) (fun u here => ?_)
      (fun u here => ?_) fun u => ?_) down rfl rfl rfl
    · exact (alive o).trans (later (by rintro ⟨⟩))
    · exact joined u ((not_congr (later (by rintro ⟨⟩))).mpr here)
    · by_cases same : u = t
      · subst same
        exact .inl (Function.update_self _ _ _)
      · refine (asked u ((not_congr (later ?_)).mpr here)).imp_left
          (Function.update_of_ne same _ _).trans
        rintro ⟨⟩
        exact same rfl
    · exact (gone u).trans (not_congr (later (by rintro ⟨⟩)))
  | join t =>
    obtain ⟨once, stays, busy⟩ := follows
    have there : w.alive t.object = true := (alive _).mpr (List.mem_cons_of_mem _ stays)
    rw [World.perform, use_alive w there]
    refine inv.of_down (.stopping shorter busy down exports sound (fun o => ?_) (fun u here => ?_)
      (fun u here => ?_) fun u => ?_) down rfl rfl rfl
    · exact (alive o).trans (later (by rintro ⟨⟩))
    · by_cases same : u = t
      · subst same
        exact .inr ready
      · refine joined u ((not_congr (later ?_)).mpr here)
        rintro ⟨⟩
        exact same rfl
    · exact asked u ((not_congr (later (by rintro ⟨⟩))).mpr here)
    · exact (gone u).trans (not_congr (later (by rintro ⟨⟩)))
  | reset o =>
    have alive' (o' : Object) : Function.update w.alive o false o' = true ↔ .reset o' ∈ rest := by
      by_cases same : o' = o
      · subst same
        rw [Function.update_self]
        exact iff_of_false (by rintro ⟨⟩) follows
      · rw [Function.update_of_ne same, alive]
        refine later ?_
        rintro ⟨⟩
        exact same rfl
    have gone' (t : Thread) :
        (if t.object = o then Worker.none else w.workers t) = .none ↔ .reset t.object ∉ rest := by
      split
      · rename_i same
        exact iff_of_true rfl (same ▸ follows)
      · rename_i other
        refine (gone t).trans (not_congr (later ?_))
        rintro ⟨⟩
        exact other rfl
    have kept (t : Thread) {P : Worker → Prop} (none : P .none) (before : P (w.workers t)) :
        P (if t.object = o then Worker.none else w.workers t) := by
      split
      · exact none
      · exact before
    by_cases busy : rest = []
    · subst busy
      refine inv.of_down (.down rfl down sound (fun o' => ?_) fun t => ?_) down rfl rfl rfl
      · rw [← Bool.not_eq_true]
        exact fun there => List.not_mem_nil ((alive' o').mp there)
      · exact (gone' t).mpr List.not_mem_nil
    · refine inv.of_down (.stopping shorter busy down exports sound alive' (fun t here => ?_)
        (fun t here => ?_) gone') down rfl rfl rfl
      · exact kept t (P := fun x => x = .none ∨ x = .returned) (.inl rfl)
          (joined t ((not_congr (later (by rintro ⟨⟩))).mpr here))
      · exact kept t (P := fun x => w.stopping t = true ∨ x = .none) (.inr rfl)
          (asked t ((not_congr (later (by rintro ⟨⟩))).mpr here))

theorem act_stuck (inv : Inv w) (at' : w.loader = a :: rest) (ready : w.Ready a)
    (suffix : w.loader <:+ modRelease) (waits : .join .evtcRpcClient ∈ w.loader)
    (down : w.isShutdown = true) (exports : w.exports = false)
    (used : w.undefined = true ↔ w.loader ≠ modRelease) (alive : w.alive .evtcRpcClient = false)
    (workers : ∀ t, w.workers t = .none) :
    Inv { w.perform a with loader := rest } := by
  have strict : rest ≠ modRelease := by
    rintro rfl
    have longer := suffix.length_le
    rw [at'] at longer
    exact Nat.not_succ_le_self _ longer
  have undefined : (w.perform a).undefined = true := by
    by_cases whole : w.loader = modRelease
    · -- The client was never made.
      obtain ⟨rfl, -⟩ := List.cons.inj (at'.symm.trans whole)
      simp [World.perform, World.use, Thread.serves, alive]
    · have before := used.mpr whole
      cases a <;> simp [World.perform, World.use, before]
  have used' : (w.perform a).undefined = true ↔ rest ≠ modRelease := iff_of_true undefined strict
  rw [at'] at suffix waits
  have follows := stopsWith suffix
  have shorter : rest <:+ modRelease := (List.suffix_cons a rest).trans suffix
  have later : .join .evtcRpcClient ∈ rest := by
    cases waits with
    | head => cases (workers _).symm.trans ready
    | tail _ later => exact later
  cases a with
  | make o => exact follows.elim
  | check => exact follows.elim
  | use o => exact follows.elim
  | unlock => exact follows.elim
  | shutdown t =>
    exact inv.of_down (.stuck shorter later down exports used' alive workers) down rfl rfl rfl
  | join t =>
    exact inv.of_down (.stuck shorter later down exports used' alive workers) down rfl rfl rfl
  | reset o =>
    refine inv.of_down (.stuck shorter later down exports used' ?_ fun t => ?_) down rfl rfl rfl
    · refine (Function.update_apply _ _ _ _).trans ?_
      split
      · rfl
      · exact alive
    · change (if t.object = o then Worker.none else w.workers t) = .none
      rw [workers t]
      exact ite_self _

theorem step (inv : Inv w) (step : Step w l w') : Inv w' := by
  cases step with
  | enter idle exported locked => exact inv.enter exported locked
  | refuse => exact inv.leave _
  | accept at' up => exact inv.accept at' up
  | use at' mem => rwa [use_alive w (inv.alive_of_inside at' mem)]
  | leave => exact inv.leave _
  | init idle down locked => exact inv.init idle down locked
  | fail at' => exact inv.fail at'
  | @act a rest at' ready =>
    cases inv.stage with
    | down loader => cases at'.symm.trans loader
    | starting suffix _ up exports sound owned alive workers =>
      exact inv.act_starting at' suffix up exports sound owned alive workers
    | up loader => cases at'.symm.trans loader
    | failed loader up exports sound alive workers =>
      rw [at'] at loader
      obtain ⟨⟨⟩⟩ | ⟨⟨⟩, owned⟩ := loader
      exact of_quiet (.failed (.inl rfl) up exports sound alive workers)
        (inv.quiet fun k => owned.not_shares)
    | stopping suffix _ down exports sound alive joined asked gone =>
      exact inv.act_stopping at' ready suffix down exports sound alive joined asked gone
    | stuck suffix waits down exports used alive workers =>
      exact inv.act_stuck at' ready suffix waits down exports used alive workers
  | release idle up locked => exact inv.release idle up locked
  | releaseAgain => exact inv
  | begin at' =>
    rw [use_alive w (inv.stage.alive_of_worker (.inl at')).1]
    exact inv.worker (.inl at') _ (by rintro ⟨⟩) _
  | work at' => rwa [use_alive w (inv.stage.alive_of_worker (.inr at')).2]
  | finish at' => exact inv.worker (.inr at') _ (by rintro ⟨⟩) _
  | stop at' stopping =>
    rw [use_alive w (inv.stage.alive_of_worker (.inl at')).1]
    exact inv.worker (.inl at') _ (by rintro ⟨⟩) _

theorem fresh : Inv {} :=
  of_quiet (.down rfl rfl rfl (fun _ => rfl) fun _ => rfl) fun _ => rfl

end Inv

theorem run_inv (run : Run Step {} ls w) : Inv w :=
  run.invariant (P := Inv) (fun _ => True) (fun inv _ step => inv.step step) .fresh
    (fun _ _ => trivial)

end ArcdpsHealing.Exports
