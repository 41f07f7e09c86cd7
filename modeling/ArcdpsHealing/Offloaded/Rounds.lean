import ArcdpsHealing.Offloaded.Aggregation

/-! What a window shows, and how old it is. -/

namespace ArcdpsHealing.Offloaded

open Lib Settings Stats

variable {H : Type}

section History

variable (i : Window) (ls : List (Label H)) (l : Label H)

def callbacks : List Sources := ls.filterMap fun
  | .callback x => some x
  | _ => none

def exchanges : List (Option (Collection H)) := ls.filterMap fun
  | .exchange j collection => if j = i then some collection else none
  | _ => none

def takes : List (Collection H) := ls.filterMap fun
  | .take j val => if j = i then some val else none
  | _ => none

theorem callbacks_append : callbacks (ls ++ [l]) = callbacks ls ++ callbacks [l] :=
  List.filterMap_append

theorem exchanges_append : exchanges i (ls ++ [l]) = exchanges i ls ++ exchanges i [l] :=
  List.filterMap_append

theorem takes_append : takes i (ls ++ [l]) = takes i ls ++ takes i [l] := List.filterMap_append

theorem exchanges_exchange (j : Window) (collection : Option (Collection H)) :
    exchanges i [.exchange j collection] = if j = i then [collection] else [] := by
  unfold exchanges
  by_cases here : j = i
  · simp [here]
  · simp [here]

theorem takes_take (j : Window) (val : Collection H) :
    takes i [.take j val] = if j = i then [val] else [] := by
  unfold takes
  by_cases here : j = i
  · simp [here]
  · simp [here]

end History

/-- A collection of what the callback returned for a window that is shown. -/
structure FromSources (x : Sources) (i : Window) (c : Collection H) : Prop where
  shown : (x.options i).shown = true
  round : c.round = x.round
  options : c.stats.mOptions = x.options i
  debugMode : c.stats.mDebugMode = x.debugMode

def Phase.sources : Phase H → Option Sources
  | .loop _ x | .exchange _ x _ | .delete _ x _ => some x
  | _ => none

def Phase.passed (n : Nat) (i : Window) : Phase H → Nat
  | .loop j _ => if i < j then n else n - 1
  | .exchange j _ _ => if i < j then n else n - 1
  | .delete j _ _ => if i ≤ j then n else n - 1
  | _ => n

structure Serving (ls : List (Label H)) (w : World H) : Prop where
  recorded : w.callbacks = callbacks ls
  rounds : ∀ (k : Nat) (x : Sources), w.callbacks[k]? = some x → x.round = k
  current : ∀ x, w.serve.sources = some x → w.callbacks.getLast? = some x
  passed : ∀ i, (exchanges i ls).length = w.serve.passed w.callbacks.length i
  built : ∀ i x c, w.serve = .exchange i x (some c) → FromSources x i c
  exchanged : ∀ i (k : Nat) c, (exchanges i ls)[k]? = some (some c) →
    ∃ x, w.callbacks[k]? = some x ∧ FromSources x i c
  slots : ∀ i c, w.mAggregatedWindows i = some c → (exchanges i ls).getLast? = some (some c)

namespace Serving

variable {ls : List (Label H)} {l : Label H} {w w' : World H}

theorem other (serving : Serving ls w) (callbacks' : Offloaded.callbacks [l] = [])
    (exchanges' : ∀ i, exchanges i [l] = []) (callbacks : w'.callbacks = w.callbacks)
    (serve : w'.serve = w.serve)
    (slots : ∀ i c, w'.mAggregatedWindows i = some c → w.mAggregatedWindows i = some c) :
    Serving (ls ++ [l]) w' := by
  constructor
  · rw [callbacks, callbacks_append, callbacks', List.append_nil, serving.recorded]
  · rw [callbacks]
    exact serving.rounds
  · rw [callbacks, serve]
    exact serving.current
  · intro i
    rw [exchanges_append, exchanges', List.append_nil, callbacks, serve, serving.passed]
  · rw [serve]
    exact serving.built
  · intro i
    rw [exchanges_append, exchanges', List.append_nil, callbacks]
    exact serving.exchanged i
  · intro i c here
    rw [exchanges_append, exchanges', List.append_nil]
    exact serving.slots i c (slots i c here)

theorem goto (serving : Serving ls w) {phase : Phase H}
    (current : ∀ x, phase.sources = some x → w.serve.sources = some x)
    (passed : ∀ i, phase.passed w.callbacks.length i = w.serve.passed w.callbacks.length i)
    (built : ∀ i x c, phase = .exchange i x (some c) → FromSources x i c)
    (callbacks : w'.callbacks = w.callbacks) (serve : w'.serve = phase)
    (slots : w'.mAggregatedWindows = w.mAggregatedWindows) :
    Serving (ls ++ [.serve]) w' := by
  have silent (i : Window) : exchanges i (ls ++ [.serve]) = exchanges i ls := by
    rw [exchanges_append]
    exact List.append_nil _
  constructor
  · rw [callbacks, callbacks_append, serving.recorded]
    exact (List.append_nil _).symm
  · rw [callbacks]
    exact serving.rounds
  · intro x here
    rw [callbacks]
    exact serving.current x (current x (serve ▸ here))
  · intro i
    rw [silent, callbacks, serve, passed, serving.passed]
  · rw [serve]
    exact built
  · intro i
    rw [silent, callbacks]
    exact serving.exchanged i
  · intro i
    rw [silent, slots]
    exact serving.slots i

theorem callback (serving : Serving ls w) (at' : w.serve = .callback) :
    Serving (ls ++ [.callback w.sources])
      { w with serve := .loop 0 w.sources, callbacks := w.callbacks ++ [w.sources] } := by
  have silent (i : Window) : exchanges i (ls ++ [.callback w.sources]) = exchanges i ls := by
    rw [exchanges_append]
    exact List.append_nil _
  constructor
  · rw [callbacks_append, ← serving.recorded]
    rfl
  · intro k x here
    rcases Nat.lt_trichotomy k w.callbacks.length with before | same | after
    · exact serving.rounds k x ((List.getElem?_append_left before).symm.trans here)
    · subst same
      cases List.getElem?_concat_length.symm.trans here
      rfl
    · rw [List.getElem?_eq_none (by rw [List.length_append]; exact after)] at here
      cases here
  · intro x here
    cases here
    exact List.getLast?_concat
  · intro i
    rw [silent, serving.passed, at']
    simp [Phase.passed]
  · rintro i x c ⟨⟩
  · intro i k c here
    rw [silent] at here
    obtain ⟨x, before, sources⟩ := serving.exchanged i k c here
    exact ⟨x, (List.getElem?_append_left (List.getElem?_eq_some_iff.mp before).1).trans before,
      sources⟩
  · intro i
    rw [silent]
    exact serving.slots i

theorem exchange (serving : Serving ls w) {i : Window} {x : Sources}
    {collection : Option (Collection H)} (at' : w.serve = .exchange i x collection) :
    Serving (ls ++ [.exchange i collection])
      { w.setSlot i collection with serve := .delete i x (w.mAggregatedWindows i) } := by
  have current := serving.current x (by rw [at']; rfl)
  have stored (j : Window) : exchanges j (ls ++ [.exchange i collection]) =
      exchanges j ls ++ if i = j then [collection] else [] := by
    rw [exchanges_append, exchanges_exchange]
  have started : 0 < w.callbacks.length :=
    List.length_pos_iff.mpr fun none => by rw [none] at current; cases current
  have passed := serving.passed
  simp only [at', Phase.passed] at passed
  constructor
  · rw [callbacks_append, ← serving.recorded]
    exact (List.append_nil _).symm
  · exact serving.rounds
  · intro y here
    cases here
    exact current
  · intro j
    rw [stored, List.length_append, passed]
    simp only [Phase.passed, World.setSlot]
    rcases lt_trichotomy j i with before | rfl | after
    · rw [if_pos before, if_neg before.ne', if_pos before.le]
      rfl
    · rw [if_neg (lt_irrefl j), if_pos rfl, if_pos le_rfl]
      exact Nat.sub_add_cancel started
    · rw [if_neg after.not_gt, if_neg after.ne, if_neg after.not_ge]
      rfl
  · rintro j y c ⟨⟩
  · intro j k c here
    rw [stored] at here
    rcases Nat.lt_or_ge k (exchanges j ls).length with before | last
    · exact serving.exchanged j k c ((List.getElem?_append_left before).symm.trans here)
    · rw [List.getElem?_append_right last] at here
      by_cases same : i = j
      · subst same
        rw [if_pos rfl, List.getElem?_singleton] at here
        obtain ⟨first, rfl⟩ : k - (exchanges i ls).length = 0 ∧ collection = some c := by
          simpa using here
        have count : k = w.callbacks.length - 1 := by
          rw [passed, if_neg (lt_irrefl i)] at first last
          exact Nat.le_antisymm (Nat.le_of_sub_eq_zero first) last
        refine ⟨x, ?_, serving.built i x c at'⟩
        exact (congrArg (w.callbacks[·]?) count).trans
          (List.getLast?_eq_getElem?.symm.trans current)
      · rw [if_neg same] at here
        cases here
  · intro j c here
    rw [stored]
    by_cases same : i = j
    · subst same
      rw [if_pos rfl, List.getLast?_concat]
      simpa [World.setSlot] using here
    · rw [if_neg same, List.append_nil]
      refine serving.slots j c ?_
      simpa [World.setSlot, Ne.symm same] using here

theorem initial {options : Window → HealWindowOptions} {debugMode : Bool} :
    Serving [] (World.initial H options debugMode) where
  recorded := rfl
  rounds k x here := by cases here
  current x here := by cases here
  passed i := rfl
  built i x c here := by cases here
  exchanged i k c here := by cases here
  slots i c here := by cases here

theorem step [DecidableEq H] (serving : Serving ls w) (step : Step w l w') :
    Serving (ls ++ [l]) w' := by
  cases step with
  | callback at' => exact serving.callback at'
  | exchange at' => exact serving.exchange at'
  | isShutdown at' | goOn at' | setTimer at' | wait at' =>
    refine serving.goto (fun x here => by cases here) (fun i => ?_)
      (fun i x c here => by cases here) rfl rfl rfl
    rw [at']
    rfl
  | loopEnd at' all =>
    refine serving.goto (fun x here => by cases here) (fun i => ?_)
      (fun i x c here => by cases here) rfl rfl rfl
    rw [at']
    exact (if_pos (i.isLt.trans_le all)).symm
  | hidden at' =>
    refine serving.goto (fun x here => ?_) (fun i => ?_) (fun i x c here => by cases here)
      rfl rfl rfl
    · rw [at']
      exact here
    · rw [at']
      rfl
  | aggregate _ _ at' shown =>
    refine serving.goto (fun x here => ?_) (fun i => ?_) (fun i x c here => ?_) rfl rfl rfl
    · rw [at']
      exact here
    · rw [at']
      rfl
    · cases here
      exact ⟨shown, rfl, rfl, rfl⟩
  | delete at' =>
    refine serving.goto (fun x here => ?_) (fun i => ?_) (fun i x c here => by cases here)
      rfl rfl rfl
    · rw [at']
      exact here
    · rw [at']
      simp only [Phase.passed, Nat.lt_succ_iff]
      rfl
  | toggle => exact serving.other rfl (fun _ => rfl) (by simp) (by simp) (by simp)
  | @take i =>
    refine serving.other rfl (fun _ => rfl) rfl rfl fun j c here => ?_
    by_cases same : j = i
    · simp [World.setSlot, same] at here
    · simpa [World.setSlot, same] using here
  | destroy => exact serving.other rfl (fun _ => rfl) rfl rfl fun i c here => by cases here
  | _ => exact serving.other rfl (fun _ => rfl) rfl rfl fun _ _ => id

end Serving

structure Showing (ls : List (Label H)) (w : World H) : Prop where
  newer : ∀ i c, w.mAggregatedWindows i = some c → ∀ d ∈ takes i ls, d.round < c.round
  stored : ∀ i, ∀ d ∈ takes i ls, ∃ k : Nat, (exchanges i ls)[k]? = some (some d)
  order : ∀ i, (takes i ls).Pairwise (·.round < ·.round)
  assigned : ∀ i val, w.frame = .assign i (some val) → (takes i ls).getLast? = some val
  shows : ∀ i c, (w.windows i).currentAggregatedStats = some c →
    c ∈ takes i ls ∧ (w.windows i).selfUniqueId = c.stats.localUniqueId ∧
      ((∀ val, w.frame ≠ .assign i (some val)) → (takes i ls).getLast? = some c)

theorem Serving.round_of_stored {ls : List (Label H)} {w : World H} (serving : Serving ls w)
    {i : Window} {k : Nat} {c : Collection H} (stored : (exchanges i ls)[k]? = some (some c)) :
    c.round = k := by
  obtain ⟨x, called, sources⟩ := serving.exchanged i k c stored
  rw [sources.round, serving.rounds k x called]

namespace Showing

variable {ls : List (Label H)} {l : Label H} {w w' : World H}

theorem other (showing : Showing ls w) (exchanges' : ∀ i, exchanges i [l] = [])
    (takes' : ∀ i, takes i [l] = [])
    (slots : ∀ i c, w'.mAggregatedWindows i = some c → w.mAggregatedWindows i = some c)
    (windows : ∀ i c, (w'.windows i).currentAggregatedStats = some c →
      (w.windows i).currentAggregatedStats = some c ∧
        (w'.windows i).selfUniqueId = (w.windows i).selfUniqueId)
    (frame : ∀ i val, w'.frame = .assign i (some val) ↔ w.frame = .assign i (some val)) :
    Showing (ls ++ [l]) w' := by
  have stored (i : Window) : exchanges i (ls ++ [l]) = exchanges i ls := by
    rw [exchanges_append, exchanges', List.append_nil]
  have taken (i : Window) : takes i (ls ++ [l]) = takes i ls := by
    rw [takes_append, takes', List.append_nil]
  constructor
  · intro i c here
    rw [taken]
    exact showing.newer i c (slots i c here)
  · intro i
    rw [taken, stored]
    exact showing.stored i
  · intro i
    rw [taken]
    exact showing.order i
  · intro i val here
    rw [taken]
    exact showing.assigned i val ((frame i val).mp here)
  · intro i c here
    obtain ⟨before, same⟩ := windows i c here
    obtain ⟨mem, self, last⟩ := showing.shows i c before
    rw [taken, same]
    exact ⟨mem, self, fun other => last fun val at' => other val ((frame i val).mpr at')⟩

theorem exchange (showing : Showing ls w) (serving : Serving ls w) {i : Window} {x : Sources}
    {collection : Option (Collection H)} (at' : w.serve = .exchange i x collection) :
    Showing (ls ++ [.exchange i collection])
      { w.setSlot i collection with serve := .delete i x (w.mAggregatedWindows i) } := by
  have serving' := serving.exchange at'
  have taken (j : Window) : takes j (ls ++ [.exchange i collection]) = takes j ls := by
    rw [takes_append]
    exact List.append_nil _
  have kept (j : Window) {k : Nat} {d : Collection H}
      (before : (exchanges j ls)[k]? = some (some d)) :
      (exchanges j (ls ++ [.exchange i collection]))[k]? = some (some d) := by
    rw [exchanges_append, List.getElem?_append_left (List.getElem?_eq_some_iff.mp before).1]
    exact before
  constructor
  · intro j c here d mem
    rw [taken] at mem
    by_cases same : j = i
    · -- the rounds of what was taken have all been stored before this one
      subst same
      obtain ⟨k, stored⟩ := showing.stored j d mem
      have last := serving'.slots j c here
      rw [List.getLast?_eq_getElem?] at last
      rw [serving.round_of_stored stored, serving'.round_of_stored last, exchanges_append,
        exchanges_exchange, if_pos rfl, List.length_append]
      exact (List.getElem?_eq_some_iff.mp stored).1
    · refine showing.newer j c ?_ d mem
      simpa [World.setSlot, same] using here
  · intro j d mem
    rw [taken] at mem
    obtain ⟨k, stored⟩ := showing.stored j d mem
    exact ⟨k, kept j stored⟩
  · intro j
    rw [taken]
    exact showing.order j
  · intro j val here
    rw [taken]
    exact showing.assigned j val here
  · intro j c here
    rw [taken]
    exact showing.shows j c here

theorem take (showing : Showing ls w) (serving : Serving ls w) {i : Window} {val : Collection H}
    (at' : w.frame = .exchange i) (there : w.mAggregatedWindows i = some val) :
    Showing (ls ++ [.take i val]) { w.setSlot i none with frame := .assign i (some val) } := by
  have taken (j : Window) : takes j (ls ++ [.take i val]) =
      takes j ls ++ if i = j then [val] else [] := by
    rw [takes_append, takes_take]
  have stored (j : Window) : exchanges j (ls ++ [.take i val]) = exchanges j ls := by
    rw [exchanges_append]
    exact List.append_nil _
  constructor
  · intro j c here
    by_cases same : j = i
    · simp [World.setSlot, same] at here
    · rw [taken, if_neg (Ne.symm same), List.append_nil]
      refine showing.newer j c ?_
      simpa [World.setSlot, same] using here
  · intro j d mem
    rw [taken, List.mem_append] at mem
    rw [stored]
    rcases mem with before | now
    · exact showing.stored j d before
    · by_cases same : i = j
      · subst same
        rw [if_pos rfl, List.mem_singleton] at now
        subst now
        exact ⟨_, List.getLast?_eq_getElem?.symm.trans (serving.slots i d there)⟩
      · rw [if_neg same] at now
        cases now
  · intro j
    rw [taken]
    by_cases same : i = j
    · subst same
      rw [if_pos rfl, List.pairwise_append]
      refine ⟨showing.order i, List.pairwise_singleton _ _, fun d mem c now => ?_⟩
      rw [List.mem_singleton.mp now]
      exact showing.newer i val there d mem
    · rw [if_neg same, List.append_nil]
      exact showing.order j
  · rintro j c here
    cases here
    rw [taken, if_pos rfl, List.getLast?_concat]
  · intro j c here
    obtain ⟨mem, self, last⟩ := showing.shows j c here
    refine ⟨?_, self, fun other => ?_⟩
    · rw [taken]
      exact List.mem_append_left _ mem
    · have apart : i ≠ j := by
        rintro rfl
        exact other val rfl
      rw [taken, if_neg apart, List.append_nil]
      exact last fun c now => by rw [at'] at now; cases now

theorem assign (showing : Showing ls w) {i : Window} {val : Collection H}
    (at' : w.frame = .assign i (some val)) :
    Showing (ls ++ [.gui]) { w.assign i val with frame := .display i } := by
  have taken (j : Window) : takes j (ls ++ [.gui]) = takes j ls := by
    rw [takes_append]
    exact List.append_nil _
  have stored (j : Window) : exchanges j (ls ++ [.gui]) = exchanges j ls := by
    rw [exchanges_append]
    exact List.append_nil _
  constructor
  · intro j
    rw [taken]
    exact showing.newer j
  · intro j
    rw [taken, stored]
    exact showing.stored j
  · intro j
    rw [taken]
    exact showing.order j
  · rintro j c ⟨⟩
  · intro j c here
    rw [taken]
    by_cases same : j = i
    · subst same
      obtain rfl : val = c := by simpa [World.assign, World.setWindow] using here
      have last := showing.assigned j val at'
      exact ⟨List.mem_of_getLast? last, by simp [World.assign, World.setWindow], fun _ => last⟩
    · obtain ⟨mem, self, last⟩ := showing.shows j c
        (by simpa [World.assign, World.setWindow, same] using here)
      refine ⟨mem, by simpa [World.assign, World.setWindow, same] using self, fun _ => ?_⟩
      exact last fun d now => same (by rw [at'] at now; cases now; rfl)

theorem initial {options : Window → HealWindowOptions} {debugMode : Bool} :
    Showing [] (World.initial H options debugMode) where
  newer i c here := by cases here
  stored i d mem := by cases mem
  order i := .nil
  assigned i val here := by cases here
  shows i c here := by cases here

theorem step [DecidableEq H] (showing : Showing ls w) (serving : Serving ls w)
    (step : Step w l w') : Showing (ls ++ [l]) w' := by
  cases step with
  | exchange at' => exact showing.exchange serving at'
  | take at' there => exact showing.take serving at' there
  | assign at' => exact showing.assign at'
  | @toggle i =>
    refine showing.other (fun _ => rfl) (fun _ => rfl) (by simp) (fun j c here => ?_) (by simp)
    rw [World.windows_toggle] at here ⊢
    by_cases same : j = i
    · subst same
      rw [Function.update_self] at here ⊢
      cases shown : (w.windows j).options.shown with
      | false => simpa [shown] using here
      | true => simp [shown] at here
    · rw [Function.update_of_ne same] at here ⊢
      exact ⟨here, rfl⟩
  | @configure i =>
    refine showing.other (fun _ => rfl) (fun _ => rfl) (fun _ _ => id) (fun j c here => ?_)
      fun _ _ => Iff.rfl
    by_cases same : j = i
    · subst same
      simpa [World.setWindow] using here
    · simpa [World.setWindow, same] using here
  | @closeButton i at' =>
    refine showing.other (fun _ => rfl) (fun _ => rfl) (fun _ _ => id) (fun j c here => ?_)
      (by simp [at'])
    by_cases same : j = i
    · subst same
      simpa [World.setWindow] using here
    · simpa [World.setWindow, same] using here
  | destroy =>
    refine showing.other (fun _ => rfl) (fun _ => rfl) (fun _ _ here => ?_)
      (fun _ _ here => ⟨here, rfl⟩) fun _ _ => Iff.rfl
    cases here
  | unload | reset =>
    refine showing.other (fun _ => rfl) (fun _ => rfl) (fun _ _ => id) (fun _ _ here => ?_)
      fun _ _ => Iff.rfl
    cases here
  | _ =>
    refine showing.other (fun _ => rfl) (fun _ => rfl) (fun _ _ => id)
      (fun _ _ here => ⟨here, rfl⟩) ?_
    simp [*]

end Showing

section Runs

variable [DecidableEq H] {options : Window → HealWindowOptions} {debugMode : Bool}
  {ls : List (Label H)} {w w' : World H}

theorem Serving.run (run : Run Step (World.initial H options debugMode) ls w) : Serving ls w :=
  run.history (fun _ => True) (fun before _ step => before.step step) .initial fun _ _ => trivial

theorem Showing.run (run : Run Step (World.initial H options debugMode) ls w) : Showing ls w :=
  (run.history (P := fun ls w => Serving ls w ∧ Showing ls w) (fun _ => True)
    (fun before _ step => ⟨before.1.step step, before.2.step before.1 step⟩) ⟨.initial, .initial⟩
    fun _ _ => trivial).2

/-- What a frame takes is of the last round that got to the window, which is
the current one or the one before, and newer than all that was taken so far. -/
theorem newest_taken (run : Run Step (World.initial H options debugMode) ls w) {i : Window}
    {c : Collection H} (step : Step w (.take i c) w') :
    c.round + 1 = (exchanges i ls).length ∧ (callbacks ls).length ≤ c.round + 2 ∧
      (∃ x, (callbacks ls)[c.round]? = some x ∧ FromSources x i c) ∧
      ∀ d ∈ takes i ls, d.round < c.round := by
  have serving := Serving.run run
  cases step with
  | take at' there =>
    have last := serving.slots i c there
    rw [List.getLast?_eq_getElem?] at last
    have round := serving.round_of_stored last
    have within := (List.getElem?_eq_some_iff.mp last).1
    have count : c.round + 1 = (exchanges i ls).length := by omega
    refine ⟨count, ?_, ?_, (Showing.run run).newer i c there⟩
    · have passed := serving.passed i
      have behind : w.callbacks.length ≤ w.serve.passed w.callbacks.length i + 1 := by
        unfold Phase.passed
        split <;> (try split) <;> omega
      rw [serving.recorded] at behind passed
      omega
    · rw [← serving.recorded, round]
      exact serving.exchanged i _ c last

theorem newest_taken_first : ∃ ls w c w',
    Run Step (World.initial Nat (fun i => { shown := i.val = 0 }) false) ls w ∧
      Step w (.take ⟨0, by decide⟩ c) w' ∧
      c.round + 1 = (exchanges ⟨0, by decide⟩ ls).length := by
  let start := World.initial Nat (fun i => { shown := i.val = 0 }) false
  let first : Window := ⟨0, by decide⟩
  obtain ⟨ls, w, c, run, frame, there⟩ : ∃ ls w c, Run Step start ls w ∧
      w.frame = .exchange first ∧ w.mAggregatedWindows first = some c :=
    ⟨_, _, _, ((((((Run.nil.snoc (.goOn rfl rfl)).snoc (.callback rfl rfl)).snoc
      (.aggregate (i := first) {} {} rfl rfl (Transaction.not_outstanding_nil (h := 7)))).snoc
      (.exchange rfl)).snoc (.frame rfl rfl)).snoc (.load (i := first) rfl rfl)), rfl, rfl⟩
  have step := Step.take frame there
  exact ⟨_, _, _, _, run, step, (newest_taken run step).1⟩

/-- A window shows, between frames, the newest collection that was taken for it,
and knows who it is about. -/
theorem shows_newest (run : Run Step (World.initial H options debugMode) ls w)
    (between : w.frame = .idle) (i : Window) :
    (takes i ls).Pairwise (·.round < ·.round) ∧
      ∀ c, (w.windows i).currentAggregatedStats = some c → (takes i ls).getLast? = some c ∧
        (w.windows i).selfUniqueId = c.stats.localUniqueId ∧
        ∃ x, (callbacks ls)[c.round]? = some x ∧ FromSources x i c := by
  have showing := Showing.run run
  have serving := Serving.run run
  refine ⟨showing.order i, fun c here => ?_⟩
  obtain ⟨mem, self, last⟩ := showing.shows i c here
  obtain ⟨k, stored⟩ := showing.stored i c mem
  have assigned (val : Collection H) : w.frame ≠ .assign i (some val) := by
    rw [between]
    intro at'
    cases at'
  refine ⟨last assigned, self, ?_⟩
  rw [← serving.recorded, serving.round_of_stored stored]
  exact serving.exchanged i k c stored

theorem shows_newest_first : ∃ ls w c,
    Run Step (World.initial Nat (fun i => { shown := i.val = 0 }) false) ls w ∧
      (w.windows ⟨0, by decide⟩).currentAggregatedStats = some c ∧
      (takes ⟨0, by decide⟩ ls).getLast? = some c := by
  let start := World.initial Nat (fun i => { shown := i.val = 0 }) false
  let first : Window := ⟨0, by decide⟩
  obtain ⟨ls, w, c, run, frame, shows, others⟩ : ∃ ls w c, Run Step start ls w ∧
      w.frame = .loop 1 ∧ (w.windows first).currentAggregatedStats = some c ∧
        ∀ j ≠ first, w.windows j = start.windows j :=
    ⟨_, _, _, (((((((((Run.nil.snoc (.goOn rfl rfl)).snoc (.callback rfl rfl)).snoc
      (.aggregate (i := first) {} {} rfl rfl (Transaction.not_outstanding_nil (h := 7)))).snoc
      (.exchange rfl)).snoc (.frame rfl rfl)).snoc (.load (i := first) rfl rfl)).snoc
      (.take rfl rfl)).snoc (.assign rfl)).snoc (.display rfl)), rfl, rfl,
      fun j apart => Function.update_of_ne apart _ _⟩
  have hidden (j : Window) (after : 1 ≤ j.val) : (w.windows j).options.shown = false := by
    rw [others j fun same => absurd (congrArg Fin.val same) (Nat.ne_of_gt after)]
    exact decide_eq_false (Nat.ne_of_gt after)
  obtain ⟨ls, run⟩ := frame_hidden run frame (by decide) hidden
  exact ⟨_, _, c, run, shows, ((shows_newest run rfl first).2 c shows).1⟩

end Runs

end ArcdpsHealing.Offloaded
