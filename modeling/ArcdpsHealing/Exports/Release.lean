import ArcdpsHealing.Exports.Lifetimes

namespace ArcdpsHealing.Exports

open Lib

variable {w w' : World} {l : Label} {ls : List Label}

section NullPointers

/-- The start of `mod_release` after a failed `mod_init`. -/
def Unstarted (ls : List Label) : Prop :=
  [Label.fail, .act (.shutdown .evtcRpcClient)].Sublist ls

theorem unstarted_snoc : Unstarted (ls ++ [l]) ↔
    Unstarted ls ∨ l = .act (.shutdown .evtcRpcClient) ∧ .fail ∈ ls := by
  rw [← List.singleton_sublist, eq_comm (a := l)]
  exact sublist_snoc (l := [Label.fail])

def Failed (w : World) : Prop := w.exports = false ∧ (w.isShutdown = false ∨ w.loader ≠ [])

theorem Stage.undefined_iff (stage : Stage w) : w.undefined = true ↔
    Failed w ∧ w.isShutdown = true ∧ w.loader ≠ modRelease := by
  unfold Failed
  cases stage with
  | down loader _ sound =>
    rw [sound, loader]
    refine iff_of_false (by rintro ⟨⟩) ?_
    rintro ⟨⟨-, up | busy⟩, down, -⟩
    · exact absurd (up.symm.trans down) (by decide)
    · exact busy rfl
  | starting _ _ up _ sound =>
    rw [sound, up]
    exact iff_of_false (by rintro ⟨⟩) (by rintro ⟨-, ⟨⟩, -⟩)
  | up _ up _ sound =>
    rw [sound, up]
    exact iff_of_false (by rintro ⟨⟩) (by rintro ⟨-, ⟨⟩, -⟩)
  | failed _ up _ sound =>
    rw [sound, up]
    exact iff_of_false (by rintro ⟨⟩) (by rintro ⟨-, ⟨⟩, -⟩)
  | stopping _ _ _ exports sound =>
    rw [sound, exports]
    exact iff_of_false (by rintro ⟨⟩) (by rintro ⟨⟨⟨⟩, -⟩, -⟩)
  | stuck _ waits down exports used =>
    have busy : w.loader ≠ [] := by
      intro idle
      rw [idle] at waits
      cases waits
    rw [used]
    exact ⟨fun late => ⟨⟨exports, .inr busy⟩, down, late⟩, fun both => both.2.2⟩

theorem Stage.stuck_of (stage : Stage w) (exports : w.exports = false) (down : w.isShutdown = true)
    (busy : w.loader ≠ []) : w.loader <:+ modRelease ∧ .join .evtcRpcClient ∈ w.loader ∧
      ∀ t, w.workers t = .none := by
  cases stage with
  | down idle => exact absurd idle busy
  | starting _ _ up => exact absurd (up.symm.trans down) (by decide)
  | up idle => exact absurd idle busy
  | failed _ up => exact absurd (up.symm.trans down) (by decide)
  | stopping _ _ _ exports' => exact absurd (exports'.symm.trans exports) (by decide)
  | stuck suffix waits _ _ _ _ workers => exact ⟨suffix, waits, workers⟩

theorem Stage.busy_of_act {a : Action} {rest : List Action} (stage : Stage w)
    (exports : w.exports = false) (down : w.isShutdown = true) (at' : w.loader = a :: rest)
    (ready : w.Ready a) : rest ≠ [] ∧ rest ≠ modRelease ∧
      (w.loader ≠ modRelease ∨ a = .shutdown .evtcRpcClient) := by
  -- `mod_release` waits for a thread that was never started.
  obtain ⟨suffix, waits, workers⟩ := stage.stuck_of exports down (by rw [at']; rintro ⟨⟩)
  refine ⟨?_, ?_, ?_⟩
  · rintro rfl
    rw [at', List.mem_singleton] at waits
    subst waits
    cases (workers _).symm.trans ready
  · rintro rfl
    have longer := suffix.length_le
    rw [at'] at longer
    exact Nat.not_succ_le_self _ longer
  · by_cases whole : w.loader = modRelease
    · exact .inr (List.cons.inj (at'.symm.trans whole)).1
    · exact .inl whole

theorem Stage.failed_of_shutdown {rest : List Action} {t : Thread} (stage : Stage w)
    (at' : w.loader = .shutdown t :: rest) : w.isShutdown = true := by
  cases stage with
  | down _ down => exact down
  | starting suffix =>
    rw [at'] at suffix
    exact (startsWith suffix).elim
  | up idle => cases at'.symm.trans idle
  | failed loader =>
    rw [at'] at loader
    obtain ⟨⟨⟩⟩ | ⟨⟨⟩, -⟩ := loader
  | stopping _ _ down => exact down
  | stuck _ _ down => exact down

theorem World.isShutdown_perform (w : World) (a : Action) :
    (w.perform a).isShutdown = w.isShutdown := by
  cases a <;> rfl

theorem failed_act {a : Action} {rest : List Action} (stage : Stage w) (at' : w.loader = a :: rest)
    (ready : w.Ready a) : Failed { w.perform a with loader := rest } ↔ Failed w := by
  have exports : (w.perform a).exports = w.exports := by
    cases a <;> rfl
  unfold Failed
  rw [exports, w.isShutdown_perform]
  refine and_congr_right fun exports => ?_
  by_cases down : w.isShutdown = true
  · have busy : w.loader ≠ [] := by
      rw [at']
      rintro ⟨⟩
    exact iff_of_true (.inr (stage.busy_of_act exports down at' ready).1) (.inr busy)
  · rw [Bool.not_eq_true] at down
    exact iff_of_true (.inl down) (.inl down)

structure Told (ls : List Label) (w : World) : Prop where
  failed : .fail ∈ ls ↔ Failed w
  unstarted : Unstarted ls ↔ w.undefined = true

namespace Told

theorem keep (told : Told ls w) (failed : Failed w' ↔ Failed w)
    (undefined : w'.undefined = w.undefined) (fail : l ≠ .fail) (act : ∀ a, l ≠ .act a) :
    Told (ls ++ [l]) w' := by
  constructor
  · rw [failed, List.mem_append, List.mem_singleton]
    exact (or_iff_left fail.symm).trans told.failed
  · rw [undefined, unstarted_snoc]
    exact (or_iff_left fun both => act _ both.1).trans told.unstarted

theorem act {a : Action} {rest : List Action} (told : Told ls w) (inv : Inv w)
    (at' : w.loader = a :: rest) (ready : w.Ready a) :
    Told (ls ++ [.act a]) { w.perform a with loader := rest } := by
  have failed := failed_act inv.stage at' ready
  have after := (inv.step (.act at' ready)).stage.undefined_iff
  have before := inv.stage.undefined_iff
  constructor
  · rw [failed, List.mem_append, List.mem_singleton]
    exact (or_iff_left (by rintro ⟨⟩)).trans told.failed
  · rw [after, failed, unstarted_snoc, told.unstarted, before, told.failed, Label.act.injEq]
    change _ ↔ _ ∧ (w.perform a).isShutdown = true ∧ rest ≠ modRelease
    rw [w.isShutdown_perform]
    constructor
    · rintro (⟨had, shut, -⟩ | ⟨rfl, had⟩)
      · exact ⟨had, shut, (inv.stage.busy_of_act had.1 shut at' ready).2.1⟩
      · have shut := inv.stage.failed_of_shutdown at'
        exact ⟨had, shut, (inv.stage.busy_of_act had.1 shut at' ready).2.1⟩
    · rintro ⟨had, shut, -⟩
      exact (inv.stage.busy_of_act had.1 shut at' ready).2.2.imp (fun late => ⟨had, shut, late⟩)
        fun first => ⟨first, had⟩

theorem step (inv : Inv w) (told : Told ls w) (step : Step w l w') : Told (ls ++ [l]) w' := by
  cases step with
  | enter => exact told.keep .rfl rfl (by rintro ⟨⟩) (by rintro _ ⟨⟩)
  | refuse => exact told.keep .rfl rfl (by rintro ⟨⟩) (by rintro _ ⟨⟩)
  | accept => exact told.keep .rfl rfl (by rintro ⟨⟩) (by rintro _ ⟨⟩)
  | use at' mem =>
    rw [Inv.use_alive w (inv.alive_of_inside at' mem)]
    exact told.keep .rfl rfl (by rintro ⟨⟩) (by rintro _ ⟨⟩)
  | leave => exact told.keep .rfl rfl (by rintro ⟨⟩) (by rintro _ ⟨⟩)
  | init idle down locked =>
    refine told.keep (iff_of_false (by rintro ⟨⟨⟩, -⟩) ?_) rfl (by rintro ⟨⟩) (by rintro _ ⟨⟩)
    rintro ⟨-, up | busy⟩
    · exact absurd (up.symm.trans down) (by decide)
    · exact busy idle
  | fail at' =>
    refine ⟨iff_of_true ?_ ⟨rfl, .inr (by rintro ⟨⟩)⟩, ?_⟩
    · exact List.mem_append_right _ (List.mem_singleton.mpr rfl)
    · rw [unstarted_snoc]
      exact (or_iff_left (by rintro ⟨⟨⟩, -⟩)).trans told.unstarted
  | act at' ready => exact told.act inv at' ready
  | release idle up locked =>
    refine told.keep (and_congr_right fun _ => ?_) rfl (by rintro ⟨⟩) (by rintro _ ⟨⟩)
    exact iff_of_true (.inr (by rintro ⟨⟩)) (.inl up)
  | releaseAgain => exact told.keep .rfl rfl (by rintro ⟨⟩) (by rintro _ ⟨⟩)
  | begin at' =>
    rw [Inv.use_alive w (inv.stage.alive_of_worker (.inl at')).1]
    exact told.keep .rfl rfl (by rintro ⟨⟩) (by rintro _ ⟨⟩)
  | work at' =>
    rw [Inv.use_alive w (inv.stage.alive_of_worker (.inr at')).2]
    exact told.keep .rfl rfl (by rintro ⟨⟩) (by rintro _ ⟨⟩)
  | finish at' => exact told.keep .rfl rfl (by rintro ⟨⟩) (by rintro _ ⟨⟩)
  | stop at' stopping =>
    rw [Inv.use_alive w (inv.stage.alive_of_worker (.inl at')).1]
    exact told.keep .rfl rfl (by rintro ⟨⟩) (by rintro _ ⟨⟩)

end Told

theorem run_told (run : Run Step {} ls w) : Told ls w :=
  (run.history (P := fun ls w => Inv w ∧ Told ls w) (fun _ => True)
    (fun both _ step => ⟨both.1.step step, both.2.step both.1 step⟩)
    ⟨.fresh, iff_of_false (by rintro ⟨⟩) (by rintro ⟨-, up | busy⟩ <;> [cases up; exact busy rfl]),
      iff_of_false (by rintro ⟨⟩) (by rintro ⟨⟩)⟩ (fun _ _ => trivial)).2

/-- No call and no thread uses what is not there, and `mod_release` only where
`mod_init` has failed. -/
theorem null_used_iff (run : Run Step {} ls w) : w.undefined = true ↔ Unstarted ls :=
  (run_told run).unstarted.symm

theorem null_used_uncertified : Unstarted [.init, .act (.make .updateChecker), .fail, .act .unlock,
    .release, .act (.shutdown .evtcRpcClient)] := by
  obtain ⟨w, run, used⟩ : ∃ w, Run Step {} [.init, .act (.make .updateChecker), .fail,
      .act .unlock, .release, .act (.shutdown .evtcRpcClient)] w ∧ w.undefined = true :=
    ⟨_, .snoc (.snoc (.snoc (.snoc (.snoc (.snoc .nil (.init rfl rfl rfl)) (.act rfl trivial))
      (.fail rfl)) (.act rfl trivial)) (.release rfl rfl rfl)) (.act rfl trivial), rfl⟩
  exact (null_used_iff run).mp used

end NullPointers

section Assertions

/-- `mod_init` has been called since the last `mod_release`. -/
def Up (ls : List Label) : Prop := ∃ before after, ls = before ++ .init :: after ∧ .release ∉ after

theorem up_snoc : Up (ls ++ [l]) ↔ l = .init ∨ l ≠ .release ∧ Up ls := by
  unfold Up
  rw [split_snoc (P := fun _ after => Label.release ∉ after), and_iff_left List.not_mem_nil]
  refine or_congr_right ?_
  simp only [List.mem_append, List.mem_singleton, not_or]
  constructor
  · rintro ⟨before, after, rfl, none, other⟩
    exact ⟨fun same => other same.symm, before, after, rfl, none⟩
  · rintro ⟨other, before, after, rfl, none⟩
    exact ⟨before, after, rfl, none, fun same => other same.symm⟩

/-- `mod_release` has set its flag and has not come to the join of the client's
thread, which runs until then. -/
def Joining (ls : List Label) : Prop :=
  ∃ before after, ls = before ++ .release :: after ∧ Up before ∧ .init ∉ after ∧
    .act (.join .evtcRpcClient) ∉ after

theorem joining_snoc : Joining (ls ++ [l]) ↔
    l = .release ∧ Up ls ∨ (l ≠ .init ∧ l ≠ .act (.join .evtcRpcClient)) ∧ Joining ls := by
  unfold Joining
  rw [split_snoc (P := fun before after => Up before ∧ Label.init ∉ after ∧
    Label.act (.join .evtcRpcClient) ∉ after)]
  simp only [List.mem_append, List.mem_singleton, not_or, List.not_mem_nil, not_false_eq_true,
    and_true]
  refine or_congr_right ⟨?_, ?_⟩
  · rintro ⟨before, after, rfl, up, ⟨init, init'⟩, join, join'⟩
    exact ⟨⟨fun same => init' same.symm, fun same => join' same.symm⟩, before, after, rfl, up, init,
      join⟩
  · rintro ⟨⟨init', join'⟩, before, after, rfl, up, init, join⟩
    exact ⟨before, after, rfl, up, ⟨init, fun same => init' same.symm⟩, join,
      fun same => join' same.symm⟩

/-- An event of a peer is taken up in between. -/
def LateEvent (ls : List Label) : Prop :=
  ∃ before after, ls = before ++ .begin .evtcRpcClient :: after ∧ Joining before

theorem lateEvent_snoc : LateEvent (ls ++ [l]) ↔
    l = .begin .evtcRpcClient ∧ Joining ls ∨ LateEvent ls :=
  split_snoc (P := fun before _ => Joining before)

theorem Stage.join_mem (stage : Stage w) (down : w.isShutdown = true)
    (serving : w.workers .evtcRpcClient = .serving) : .join .evtcRpcClient ∈ w.loader := by
  cases stage with
  | down _ _ _ _ workers => cases (workers .evtcRpcClient).symm.trans serving
  | starting _ _ up => cases up.symm.trans down
  | up _ up => cases up.symm.trans down
  | failed _ up => cases up.symm.trans down
  | stopping _ _ _ _ _ _ joined =>
    by_contra past
    obtain none | returned := joined .evtcRpcClient past
    · cases none.symm.trans serving
    · cases returned.symm.trans serving
  | stuck _ waits => exact waits

theorem Stage.up_of_check {rest : List Action} (stage : Stage w)
    (at' : w.loader = .check :: rest) : w.isShutdown = false := by
  cases stage with
  | down idle => cases at'.symm.trans idle
  | starting _ _ up => exact up
  | up idle => cases at'.symm.trans idle
  | failed _ up => exact up
  | stopping suffix =>
    rw [at'] at suffix
    exact (stopsWith suffix).elim
  | stuck suffix =>
    rw [at'] at suffix
    exact (stopsWith suffix).elim

theorem Stage.join_once (stage : Stage w) (down : w.isShutdown = true) {a : Action}
    {rest : List Action} (at' : w.loader = a :: rest) :
    .join .evtcRpcClient ∈ rest ↔ .join .evtcRpcClient ∈ w.loader ∧ a ≠ .join .evtcRpcClient := by
  have once (suffix : w.loader <:+ modRelease) : a ∉ rest := by
    have nodup : w.loader.Nodup := (show modRelease.Nodup by decide).sublist suffix.sublist
    rw [at'] at nodup
    exact (List.nodup_cons.mp nodup).1
  have joined (suffix : w.loader <:+ modRelease) : .join .evtcRpcClient ∈ rest ↔
      .join .evtcRpcClient ∈ w.loader ∧ a ≠ .join .evtcRpcClient := by
    rw [at', List.mem_cons]
    constructor
    · intro later
      refine ⟨.inr later, ?_⟩
      rintro rfl
      exact once suffix later
    · rintro ⟨now | later, other⟩
      · exact absurd now.symm other
      · exact later
  cases stage with
  | down idle => cases at'.symm.trans idle
  | starting _ _ up => cases up.symm.trans down
  | up idle => cases at'.symm.trans idle
  | failed _ up => cases up.symm.trans down
  | stopping suffix => exact joined suffix
  | stuck suffix => exact joined suffix

structure Switched (ls : List Label) (w : World) : Prop where
  up : w.isShutdown = false ↔ Up ls
  joining : Joining ls ↔ w.isShutdown = true ∧ .join .evtcRpcClient ∈ w.loader
  late : w.assertFailed = true ↔ LateEvent ls

namespace Switched

theorem keep (switched : Switched ls w) (isShutdown : w'.isShutdown = w.isShutdown)
    (loader : w'.loader = w.loader) (assertFailed : w'.assertFailed = w.assertFailed)
    (init : l ≠ .init) (release : l ≠ .release) (join : l ≠ .act (.join .evtcRpcClient))
    (event : l ≠ .begin .evtcRpcClient) : Switched (ls ++ [l]) w' := by
  constructor
  · rw [isShutdown, up_snoc, or_iff_right init, and_iff_right release]
    exact switched.up
  · rw [isShutdown, loader, joining_snoc, or_iff_right fun both => release both.1,
      and_iff_right ⟨init, join⟩]
    exact switched.joining
  · rw [assertFailed, lateEvent_snoc, or_iff_right fun both => event both.1]
    exact switched.late

theorem act (switched : Switched ls w) (inv : Inv w) {a : Action} {rest : List Action}
    (at' : w.loader = a :: rest) :
    Switched (ls ++ [.act a]) { w.perform a with loader := rest } := by
  have same : (w.perform a).assertFailed = w.assertFailed := by
    cases a <;> rfl
  constructor
  · rw [up_snoc, or_iff_right (by rintro ⟨⟩), and_iff_right (by rintro ⟨⟩)]
    exact (Eq.congr_left (w.isShutdown_perform a)).trans switched.up
  · change _ ↔ (w.perform a).isShutdown = true ∧ _ ∈ rest
    rw [w.isShutdown_perform, joining_snoc, or_iff_right (by rintro ⟨⟨⟩, -⟩), switched.joining]
    refine ⟨?_, ?_⟩
    · rintro ⟨⟨-, other⟩, down, joins⟩
      exact ⟨down, (inv.stage.join_once down at').mpr ⟨joins, fun same => other (same ▸ rfl)⟩⟩
    · rintro ⟨down, later⟩
      obtain ⟨joins, other⟩ := (inv.stage.join_once down at').mp later
      exact ⟨⟨by rintro ⟨⟩, fun same => other (Label.act.inj same)⟩, down, joins⟩
  · rw [lateEvent_snoc, or_iff_right (by rintro ⟨⟨⟩, -⟩)]
    exact (Eq.congr_left same).trans switched.late

theorem step (inv : Inv w) (switched : Switched ls w) (step : Step w l w') :
    Switched (ls ++ [l]) w' := by
  have none (idle : w.loader = []) : ¬ Joining ls := by
    rw [switched.joining, idle]
    rintro ⟨-, ⟨⟩⟩
  cases step with
  | enter => exact switched.keep rfl rfl rfl nofun nofun nofun nofun
  | refuse => exact switched.keep rfl rfl rfl nofun nofun nofun nofun
  | accept => exact switched.keep rfl rfl rfl nofun nofun nofun nofun
  | use => exact switched.keep rfl rfl rfl nofun nofun nofun nofun
  | leave => exact switched.keep rfl rfl rfl nofun nofun nofun nofun
  | init =>
    refine ⟨iff_of_true rfl (up_snoc.mpr (.inl rfl)), ?_, ?_⟩
    · rw [joining_snoc]
      exact iff_of_false (by rintro (⟨⟨⟩, -⟩ | ⟨⟨other, -⟩, -⟩); exact other rfl)
        (by rintro ⟨⟨⟩, -⟩)
    · rw [lateEvent_snoc, or_iff_right (by rintro ⟨⟨⟩, -⟩)]
      exact switched.late
  | fail at' =>
    have up := inv.stage.up_of_check at'
    refine ⟨?_, ?_, ?_⟩
    · rw [up_snoc, or_iff_right nofun, and_iff_right nofun]
      exact switched.up
    · rw [joining_snoc, or_iff_right (by rintro ⟨⟨⟩, -⟩), and_iff_right ⟨nofun, nofun⟩,
        switched.joining, up]
      exact iff_of_false nofun nofun
    · rw [lateEvent_snoc, or_iff_right (by rintro ⟨⟨⟩, -⟩)]
      exact switched.late
  | act at' => exact switched.act inv at'
  | release idle up =>
    refine ⟨iff_of_false nofun ?_, ?_, ?_⟩
    · rw [up_snoc]
      rintro (⟨⟨⟩⟩ | ⟨other, -⟩)
      exact other rfl
    · rw [joining_snoc]
      exact iff_of_true (.inl ⟨rfl, switched.up.mp up⟩)
        ⟨rfl, (shutdown_join_mem .evtcRpcClient).2⟩
    · rw [lateEvent_snoc, or_iff_right (by rintro ⟨⟨⟩, -⟩)]
      exact switched.late
  | releaseAgain idle down =>
    have up : ¬ Up ls := by
      rw [← switched.up, down]
      exact nofun
    refine ⟨?_, ?_, ?_⟩
    · rw [down, up_snoc]
      refine iff_of_false nofun ?_
      rintro (⟨⟨⟩⟩ | ⟨other, -⟩)
      exact other rfl
    · rw [joining_snoc, idle]
      refine iff_of_false ?_ (by rintro ⟨-, ⟨⟩⟩)
      rintro (⟨-, up'⟩ | ⟨-, joining⟩)
      · exact up up'
      · exact none idle joining
    · rw [lateEvent_snoc, or_iff_right (by rintro ⟨⟨⟩, -⟩)]
      exact switched.late
  | @begin t at' =>
    refine ⟨?_, ?_, ?_⟩
    · rw [up_snoc, or_iff_right nofun, and_iff_right nofun]
      exact switched.up
    · rw [joining_snoc, or_iff_right (by rintro ⟨⟨⟩, -⟩), and_iff_right ⟨nofun, nofun⟩]
      exact switched.joining
    · rw [lateEvent_snoc, ← switched.late, switched.joining]
      cases t with
      | evtcRpcClient =>
        have joins := fun down => inv.stage.join_mem down at'
        simp [or_comm, and_iff_left_of_imp joins]
      | offloadedStatsAggregation => simp
  | work => exact switched.keep rfl rfl rfl nofun nofun nofun nofun
  | finish => exact switched.keep rfl rfl rfl nofun nofun nofun nofun
  | stop => exact switched.keep rfl rfl rfl nofun nofun nofun nofun

end Switched

/-- The assertion of `ProcessPeerEvent` fails exactly where an event is taken up
between the flag of `mod_release` and the join of the client's thread. -/
theorem assert_failed_iff (run : Run Step {} ls w) : w.assertFailed = true ↔ LateEvent ls := by
  have down : ¬ Up [] := by
    rintro ⟨before, after, split, -⟩
    cases (List.append_eq_nil_iff.mp split.symm).2
  have joining : ¬ Joining [] := by
    rintro ⟨before, after, split, -⟩
    cases (List.append_eq_nil_iff.mp split.symm).2
  have late : ¬ LateEvent [] := by
    rintro ⟨before, after, split, -⟩
    cases (List.append_eq_nil_iff.mp split.symm).2
  have fresh : Switched [] {} :=
    ⟨iff_of_false nofun down, iff_of_false joining nofun, iff_of_false nofun late⟩
  exact (run.history (P := fun ls w => Inv w ∧ Switched ls w) (fun _ => True)
    (fun both _ step => ⟨both.1.step step, both.2.step both.1 step⟩) ⟨.fresh, fresh⟩
    (fun _ _ => trivial)).2.late

theorem started : ∃ w, Run Step {} (.init :: modInit.map .act) w ∧ w.loader = [] ∧
    w.isShutdown = false ∧ w.lock = .free ∧ ∀ t, w.workers t = .serving :=
  ⟨_, .snoc (.snoc (.snoc (.snoc (.snoc (.snoc (.snoc (.snoc (.snoc (.snoc (.snoc (.snoc (.snoc .nil
    (.init rfl rfl rfl)) (.act rfl trivial)) (.act rfl trivial)) (.act rfl trivial))
    (.act rfl trivial)) (.act rfl trivial)) (.act rfl trivial)) (.act rfl trivial))
    (.act rfl trivial)) (.act rfl trivial)) (.act rfl trivial)) (.act rfl trivial))
    (.act rfl trivial), rfl, rfl, rfl, by rintro ⟨⟩ <;> rfl⟩

theorem assert_failed_overtaken :
    LateEvent (.init :: modInit.map .act ++ [.release] ++ [.begin .evtcRpcClient]) := by
  obtain ⟨w, run, failed⟩ : ∃ w, Run Step {}
      (.init :: modInit.map .act ++ [.release] ++ [.begin .evtcRpcClient]) w ∧
      w.assertFailed = true := by
    obtain ⟨w, run, idle, up, free, serving⟩ := started
    obtain ⟨m, locked⟩ : ∃ m, w.lock.lock none = some m := ⟨_, by rw [free]; rfl⟩
    refine ⟨_, (run.snoc (.release idle up locked)).snoc (.begin (serving .evtcRpcClient)), ?_⟩
    simp
  exact (assert_failed_iff run).mp failed

end Assertions

section Liveness

def Label.Ends : Label → Prop
  | .enter _ _ => False
  | .check _ => False
  | .use _ _ => False
  | .leave _ => False
  | .init => False
  | .fail => False
  | .release => False
  | .act _ => True
  | .begin _ => False
  | .work _ => False
  | .finish _ => True
  | .stop _ => True

theorem joinable {t : Thread} (stopping : w.stopping t = true) (started : w.workers t ≠ .none) :
    ∃ ms w', Run Step w ms w' ∧ w'.loader = w.loader ∧ w'.workers t = .returned ∧
      ∀ l ∈ ms, l.Ends := by
  -- A thread that has been asked to stop does, once it has finished its work.
  have stop {w : World} (stopping : w.stopping t = true) (serving : w.workers t = .serving) :
      ∃ w', Step w (.stop t) w' ∧ w'.loader = w.loader ∧ w'.workers t = .returned :=
    ⟨_, .stop serving stopping, rfl, Function.update_self _ _ _⟩
  cases phase : w.workers t with
  | none => exact absurd phase started
  | serving =>
    obtain ⟨w', last, loader, returned⟩ := stop stopping phase
    refine ⟨[] ++ [.stop t], w', .snoc .nil last, loader, returned, ?_⟩
    rintro l (_ | ⟨_, ⟨⟩⟩)
    trivial
  | working =>
    have serving : (w.setWorker t .serving).workers t = .serving := Function.update_self _ _ _
    obtain ⟨w', last, loader, returned⟩ := stop (w := w.setWorker t .serving) stopping serving
    refine ⟨[] ++ [.finish t] ++ [.stop t], w', .snoc (.snoc .nil (.finish phase)) last, loader,
      returned, ?_⟩
    rintro l (_ | ⟨_, _ | ⟨_, ⟨⟩⟩⟩)
    · trivial
    · trivial
  | returned => exact ⟨[], w, .nil, rfl, phase, by rintro _ ⟨⟩⟩

theorem ready {a : Action} {rest : List Action} (inv : Inv w) (made : ¬ Failed w)
    (at' : w.loader = a :: rest) :
    ∃ ms w', Run Step w ms w' ∧ w'.loader = a :: rest ∧ w'.Ready a ∧ ∀ l ∈ ms, l.Ends := by
  have now (ready : w.Ready a) :
      ∃ ms w', Run Step w ms w' ∧ w'.loader = a :: rest ∧ w'.Ready a ∧ ∀ l ∈ ms, l.Ends :=
    ⟨[], w, .nil, at', ready, by rintro _ ⟨⟩⟩
  cases a with
  | make o => exact now trivial
  | check => exact now trivial
  | use o => exact now trivial
  | unlock => exact now trivial
  | shutdown t => exact now trivial
  | reset o => exact now trivial
  | join t =>
    cases inv.stage with
    | down idle => cases at'.symm.trans idle
    | starting suffix =>
      rw [at'] at suffix
      exact (startsWith suffix).elim
    | up idle => cases at'.symm.trans idle
    | failed loader =>
      rw [at'] at loader
      obtain ⟨⟨⟩⟩ | ⟨⟨⟩, -⟩ := loader
    | stopping suffix _ _ _ _ _ _ asked gone =>
      rw [at'] at suffix asked gone
      obtain ⟨once, stays, -⟩ := stopsWith suffix
      have started : w.workers t ≠ .none := by
        rw [ne_eq, gone, not_not]
        exact List.mem_cons_of_mem _ stays
      have asks : .shutdown t ∉ .join t :: rest := by
        rintro (_ | ⟨_, later⟩)
        exact once later
      have stopping := (asked t asks).resolve_right started
      obtain ⟨ms, w', run, loader, returned, ends⟩ := joinable stopping started
      exact ⟨ms, w', run, loader.trans at', returned, ends⟩
    | stuck _ _ _ exports =>
      refine absurd ⟨exports, .inr ?_⟩ made
      rw [at']
      rintro ⟨⟩

theorem Stage.gone (stage : Stage w) (idle : w.loader = []) (down : w.isShutdown = true) :
    (∀ o, w.alive o = false) ∧ ∀ t, w.workers t = .none := by
  cases stage with
  | down _ _ _ alive workers => exact ⟨alive, workers⟩
  | starting _ busy => exact absurd idle busy
  | up _ up => exact absurd (up.symm.trans down) (by decide)
  | failed _ up => exact absurd (up.symm.trans down) (by decide)
  | stopping _ busy => exact absurd idle busy
  | stuck _ waits =>
    rw [idle] at waits
    cases waits

/-- `mod_init` and `mod_release` can always return, without another call and
without another event, and then nothing is left of what is shut down. -/
theorem finishes (run : Run Step {} ls w) (made : .fail ∉ ls) :
    (∃ ms w', Run Step w ms w' ∧ w'.loader = [] ∧ ∀ l ∈ ms, l.Ends) ∧
      (w.loader = [] → w.isShutdown = true →
        (∀ o, w.alive o = false) ∧ (∀ t, w.workers t = .none) ∧ ∀ k e, w.calls k ≠ .inside e) := by
  refine ⟨?_, fun idle down => ?_⟩
  · induction rest : w.loader generalizing ls w with
    | nil => exact ⟨[], w, .nil, rest, by rintro _ ⟨⟩⟩
    | cons a rest' ih =>
      have failed : ¬ Failed w := fun failed => made ((run_told run).failed.mpr failed)
      obtain ⟨ms, v, first, at', possible, ends⟩ := ready (run_inv run) failed rest
      have step := first.snoc (.act at' possible)
      have made' : .fail ∉ ls ++ (ms ++ [.act a]) := by
        simp only [List.mem_append, List.mem_singleton, not_or]
        exact ⟨made, fun mem => ends _ mem, by rintro ⟨⟩⟩
      obtain ⟨ms', w', later, idle, ends'⟩ := ih (run.trans step) made' rfl
      refine ⟨_, w', step.trans later, idle, ?_⟩
      simp only [List.mem_append, List.mem_singleton]
      rintro l ((mem | rfl) | mem)
      · exact ends l mem
      · trivial
      · exact ends' l mem
  · have inv := run_inv run
    obtain ⟨alive, workers⟩ := inv.stage.gone idle down
    refine ⟨alive, workers, fun k e at' => ?_⟩
    exact absurd ((inv.inside k e at').1.symm.trans down) (by decide)

theorem finishes_released : ∃ w, Run Step {} (.init :: modInit.map .act ++ [.release]) w ∧
    ∃ ms w', Run Step w ms w' ∧ w'.loader = [] ∧ ∀ l ∈ ms, l.Ends := by
  obtain ⟨w, run, idle, up, free, -⟩ := started
  obtain ⟨m, locked⟩ : ∃ m, w.lock.lock none = some m := ⟨_, by rw [free]; rfl⟩
  have run := run.snoc (.release idle up locked)
  exact ⟨_, run, (finishes run (by decide)).1⟩

end Liveness

end ArcdpsHealing.Exports
