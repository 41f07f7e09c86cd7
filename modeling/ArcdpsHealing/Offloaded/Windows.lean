import ArcdpsHealing.Offloaded.Ownership

namespace ArcdpsHealing.Offloaded

open Lib Settings

variable {H : Type}

def switches (i : Window) (ls : List (Label H)) : List Bool := ls.filterMap fun
  | .toggle j => if j = i then some false else none
  | .closeButton j => if j = i then some true else none
  | .reset => some false
  | _ => none

theorem switches_append (i : Window) (ls : List (Label H)) (l : Label H) :
    switches i (ls ++ [l]) = switches i ls ++ switches i [l] := List.filterMap_append

theorem switches_toggle (i j : Window) :
    switches i [(.toggle j : Label H)] = if j = i then [false] else [] := by
  unfold switches
  by_cases here : j = i
  · simp [here]
  · simp [here]

theorem switches_closeButton (i j : Window) :
    switches i [(.closeButton j : Label H)] = if j = i then [true] else [] := by
  unfold switches
  by_cases here : j = i
  · simp [here]
  · simp [here]

def Frame.window : Frame H → Option Window
  | .exchange i | .assign i _ | .display i => some i
  | _ => none

structure Filled (ls : List (Label H)) (w : World H) : Prop where
  shown : ∀ i, w.frame.window = some i → (w.windows i).options.shown = true
  displayed : ∀ i, w.frame = .display i → (w.windows i).currentAggregatedStats.isSome = true
  hidden : w.release ≠ .unloaded → ∀ i, (w.windows i).options.shown = false →
    ((w.windows i).currentAggregatedStats.isSome = true ↔ (switches i ls).getLast? = some true)

namespace Filled

variable {ls : List (Label H)} {l : Label H} {w w' : World H}

theorem initial {options : Window → HealWindowOptions} {debugMode : Bool} :
    Filled [] (World.initial H options debugMode) where
  shown i here := by cases here
  displayed i here := by cases here
  hidden _ i _ := by simp [World.initial, switches]

theorem other (filled : Filled ls w) (switches' : ∀ i, switches i [l] = [])
    (release : w.release = .unloaded → w'.release = .unloaded)
    (windows : w'.windows = w.windows)
    (shown : ∀ i, w'.frame.window = some i → (w.windows i).options.shown = true)
    (displayed : ∀ i, w'.frame = .display i →
      (w.windows i).currentAggregatedStats.isSome = true) : Filled (ls ++ [l]) w' := by
  refine ⟨?_, ?_, fun loaded i => ?_⟩
  · rw [windows]
    exact shown
  · rw [windows]
    exact displayed
  · rw [windows, switches_append, switches', List.append_nil]
    exact filled.hidden (fun gone => loaded (release gone)) i

theorem window (filled : Filled ls w) {i : Window} {c : HealWindowContext H}
    (switches' : ∀ j, switches j [l] = []) (windows : w'.windows = Function.update w.windows i c)
    (release : w'.release = w.release)
    (shown : c.options.shown = (w.windows i).options.shown)
    (kept : c.options.shown = false → c.currentAggregatedStats.isSome =
      (w.windows i).currentAggregatedStats.isSome)
    (frame : ∀ j, w'.frame.window = some j → w.frame.window = some j)
    (displayed : ∀ j, w'.frame = .display j →
      ((w'.windows j).currentAggregatedStats.isSome = true)) : Filled (ls ++ [l]) w' := by
  refine ⟨fun j here => ?_, displayed, fun loaded j hidden => ?_⟩
  · have before := filled.shown j (frame j here)
    rw [windows]
    by_cases same : j = i
    · subst same
      rw [Function.update_self, shown, before]
    · rw [Function.update_of_ne same, before]
  · rw [switches_append, switches', List.append_nil]
    rw [windows] at hidden ⊢
    by_cases same : j = i
    · subst same
      rw [Function.update_self] at hidden ⊢
      rw [kept hidden]
      exact filled.hidden (release ▸ loaded) j (shown ▸ hidden)
    · rw [Function.update_of_ne same] at hidden ⊢
      exact filled.hidden (release ▸ loaded) j hidden

theorem toggle (filled : Filled ls w) {i : Window} (free : w.frame = .idle) :
    Filled (ls ++ [.toggle i]) (w.toggle i) := by
  refine ⟨fun j here => ?_, fun j here => ?_, fun loaded j hidden => ?_⟩
  · rw [World.frame_toggle, free] at here
    cases here
  · rw [World.frame_toggle, free] at here
    cases here
  · rw [switches_append, switches_toggle]
    rw [World.windows_toggle] at hidden ⊢
    by_cases same : j = i
    · subst same
      rw [Function.update_self] at hidden ⊢
      have before : (w.windows j).options.shown = true := by
        simpa [World.setShown] using hidden
      simp [before]
    · rw [Function.update_of_ne same] at hidden ⊢
      rw [if_neg (Ne.symm same), List.append_nil]
      exact filled.hidden (by simpa using loaded) j hidden

theorem closeButton (filled : Filled ls w) {i : Window} (at' : w.frame = .display i) :
    Filled (ls ++ [.closeButton i])
      { w.setWindow i
          { w.windows i with options := World.setShown (w.windows i).options false } with
        frame := .loop (i + 1) } := by
  refine ⟨fun j here => ?_, fun j here => ?_, fun loaded j hidden => ?_⟩
  · cases here
  · cases here
  · rw [switches_append, switches_closeButton]
    by_cases same : j = i
    · subst same
      have full := filled.displayed j at'
      simp [World.setWindow, full]
    · rw [if_neg (Ne.symm same), List.append_nil]
      simp only [World.setWindow, Function.update_of_ne same] at hidden ⊢
      exact filled.hidden loaded j hidden

theorem reset (free : w.frame = .idle) :
    Filled (ls ++ [.reset]) w.reset := by
  refine ⟨fun j here => ?_, fun j here => ?_, fun _ j _ => ?_⟩
  · cases (congrArg Frame.window free).symm.trans here
  · cases free.symm.trans here
  · simp [switches, World.reset]

theorem step [DecidableEq H] (filled : Filled ls w) (closing : Closing w) (step : Step w l w') :
    Filled (ls ++ [l]) w' := by
  cases step with
  | toggle _ free => exact filled.toggle free
  | closeButton at' => exact filled.closeButton at'
  | reset _ free => exact .reset free
  | @configure i o running same =>
    refine filled.window (fun _ => rfl) rfl rfl same (fun _ => rfl) (fun _ => id) fun j at' => ?_
    have before := filled.displayed j at'
    by_cases here : j = i
    · subst here
      simpa [World.setWindow] using before
    · simpa [World.setWindow, here] using before
  | @assign i val at' =>
    have shown := filled.shown i (by rw [at']; rfl)
    refine filled.window (fun _ => rfl) rfl rfl rfl (fun hidden => ?_) (fun j here => ?_)
      fun j here => ?_
    · cases shown.symm.trans hidden
    · rw [at']
      exact here
    · cases here
      simp [World.assign, World.setWindow]
  | unload destroyed =>
    refine ⟨filled.shown, fun i here => ?_, fun loaded => absurd rfl loaded⟩
    have idle := closing.frame (by rw [destroyed]; decide)
    cases here.symm.trans idle
  | fastPath at' shown | load at' shown =>
    refine filled.other (fun _ => rfl) id rfl (fun i here => ?_) fun i here => by cases here
    cases here
    exact shown
  | keep at' there =>
    refine filled.other (fun _ => rfl) id rfl (fun i here => ?_) fun i here => ?_
    · cases here
      exact filled.shown _ (by rw [at']; rfl)
    · cases here
      exact there
  | gone at' | take at' =>
    refine filled.other (fun _ => rfl) id rfl (fun i here => ?_) fun i here => by cases here
    cases here
    exact filled.shown _ (by rw [at']; rfl)
  | frame | frameEnd | notShown | notAggregated | display =>
    exact filled.other (fun _ => rfl) id rfl (fun i here => by cases here)
      fun i here => by cases here
  | store before | wake before | destroy before =>
    refine filled.other (fun _ => rfl) (fun gone => ?_) rfl filled.shown filled.displayed
    cases before.symm.trans gone
  | _ => exact filled.other (fun _ => rfl) id rfl filled.shown filled.displayed

end Filled

/-- Until the module is unloaded, a hidden window has a collection if and only
if it was last hidden with its close button. -/
theorem hidden_filled_iff [DecidableEq H] {options : Window → HealWindowOptions}
    {debugMode : Bool} {ls : List (Label H)} {w : World H}
    (run : Run Step (World.initial H options debugMode) ls w) (loaded : w.release ≠ .unloaded)
    {i : Window} (hidden : (w.windows i).options.shown = false) :
    (w.windows i).currentAggregatedStats.isSome = true ↔
      (switches i ls).getLast? = some true := by
  have filled : Closing w ∧ Filled ls w :=
    run.history (P := fun ls w => Closing w ∧ Filled ls w) (fun _ => True)
      (fun before _ step => ⟨before.1.step step, before.2.step before.1 step⟩)
      ⟨.initial, .initial⟩ fun _ _ => trivial
  exact filled.2.hidden loaded i hidden

theorem hidden_filled_closed : ∃ ls w,
    Run Step (World.initial Nat (fun i => { shown := i.val = 0 }) false) ls w ∧
      (w.windows ⟨0, by decide⟩).options.shown = false ∧
      (w.windows ⟨0, by decide⟩).currentAggregatedStats.isSome = true := by
  let start := World.initial Nat (fun i => { shown := i.val = 0 }) false
  let first : Window := ⟨0, by decide⟩
  obtain ⟨ls, w, run, release, hidden, last⟩ : ∃ ls w, Run Step start ls w ∧
      w.release = .running ∧ (w.windows first).options.shown = false ∧
        (switches first ls).getLast? = some true :=
    ⟨_, _, (((((((((Run.nil.snoc (.goOn rfl rfl)).snoc (.callback rfl rfl)).snoc
      (.aggregate (i := first) {} {} rfl rfl (Transaction.not_outstanding_nil (h := 7)))).snoc
      (.exchange rfl)).snoc (.frame rfl rfl)).snoc (.load (i := first) rfl rfl)).snoc
      (.take rfl rfl)).snoc (.assign rfl)).snoc (.closeButton rfl)), rfl, rfl, rfl⟩
  have loaded : w.release ≠ .unloaded := by rw [release]; decide
  exact ⟨ls, w, run, hidden, (hidden_filled_iff run loaded hidden).mpr last⟩

end ArcdpsHealing.Offloaded
