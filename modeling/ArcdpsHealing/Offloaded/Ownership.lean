import ArcdpsHealing.Offloaded.Aggregation

/-! Every collection that was built is in one place until it is deleted, once. -/

namespace ArcdpsHealing.Offloaded

open Lib Lib.Transaction Relation Settings Stats

variable {H : Type}

inductive Place
  | collection
  | old
  | slot (i : Window)
  | newAggregatedStats
  | window (i : Window)
  deriving DecidableEq

@[simp] def Phase.collection : Phase H → Option (Collection H)
  | .exchange _ _ collection => collection
  | _ => none

@[simp] def Phase.old : Phase H → Option (Collection H)
  | .delete _ _ old => old
  | _ => none

@[simp] def Frame.newAggregatedStats : Frame H → Option (Collection H)
  | .assign _ newAggregatedStats => newAggregatedStats
  | _ => none

def World.contents (w : World H) : Place → Option (Collection H)
  | .collection => w.serve.collection
  | .old => w.serve.old
  | .slot i => w.mAggregatedWindows i
  | .newAggregatedStats => w.frame.newAggregatedStats
  | .window i => (w.windows i).currentAggregatedStats

def World.holdings (w : World H) : Holdings Place H :=
  ⟨fun p => (w.contents p).map (·.address), w.history⟩

section Contents

variable (w : World H) (i : Window)

@[simp] theorem contents_window (c : HealWindowContext H) (p : Place) :
    (w.setWindow i c).contents p =
      if p = .window i then c.currentAggregatedStats else w.contents p := by
  cases p with
  | window j =>
    by_cases here : j = i
    · simp [World.contents, World.setWindow, here]
    · simp [World.contents, World.setWindow, here]
  | _ => simp [World.contents, World.setWindow]

@[simp] theorem contents_slot (c : Option (Collection H)) (p : Place) :
    (w.setSlot i c).contents p = if p = .slot i then c else w.contents p := by
  cases p with
  | slot j =>
    by_cases here : j = i
    · simp [World.contents, World.setSlot, here]
    · simp [World.contents, World.setSlot, here]
  | _ => simp [World.contents, World.setSlot]

end Contents

theorem World.holdings_eq {w w' : World H} (contents : ∀ p, w'.contents p = w.contents p)
    (history : w'.history = w.history) : w'.holdings = w.holdings := by
  unfold World.holdings
  rw [history, funext contents]

variable [DecidableEq H]

section Steps

variable {w w' : World H}

omit [DecidableEq H] in
@[simp] theorem owned_holdings (p : Place) :
    w.holdings.owned p = (w.contents p).map (·.address) := rfl

omit [DecidableEq H] in
@[simp] theorem history_holdings : w.holdings.history = w.history := rfl

theorem transfers_released {p : Place}
    (contents : ∀ q, w'.contents q = if q = p then none else w.contents q)
    (history : w'.history = delete w.history (w.contents p)) :
    ReflTransGen Holdings.Transfer w.holdings w'.holdings := by
  have drop : w'.holdings = w.holdings.drop p := by
    refine Holdings.ext_owned (fun q => ?_) ?_
    · rw [owned_holdings, Holdings.owned_drop, contents, owned_holdings]
      split <;> rfl
    · rw [history_holdings, history, delete, Holdings.drop, owned_holdings, Option.map_map]
      rfl
  rw [drop]
  exact Holdings.transfers_drop _ _

theorem transfers_all {is : List Window} (nodup : is.Nodup) (all : ∀ i, i ∈ is)
    {f : Window → Place} (injective : Function.Injective f)
    (contents : ∀ q, w'.contents q = if ∃ i, f i = q then none else w.contents q)
    (history : w'.history = is.foldl (fun history i => delete history (w.contents (f i)))
      w.history) :
    ReflTransGen Holdings.Transfer w.holdings w'.holdings := by
  have drops : w'.holdings = (is.map f).foldl Holdings.drop w.holdings := by
    refine Holdings.ext_owned (fun q => ?_) ?_
    · rw [owned_holdings, Holdings.owned_drops, contents, owned_holdings]
      simp only [List.mem_map, all, true_and]
      split <;> rfl
    · rw [Holdings.history_drops _ (nodup.map injective), List.foldl_map]
      refine history.trans (List.foldl_ext _ _ _ fun history i _ => ?_)
      rw [delete, owned_holdings, Option.map_map]
      rfl
  rw [drops]
  exact Holdings.transfers_drops _ _

theorem transfers_quiet (contents : ∀ p, w'.contents p = w.contents p)
    (history : w'.history = w.history) :
    ReflTransGen Holdings.Transfer w.holdings w'.holdings := by
  rw [World.holdings_eq contents history]

theorem transfers_toggle (i : Window) :
    ReflTransGen Holdings.Transfer w.holdings (w.toggle i).holdings := by
  cases shown : (w.windows i).options.shown with
  | false =>
    refine transfers_quiet (fun p => ?_) (by simp [World.toggle, shown, World.setWindow])
    have same : (w.toggle i).contents p = (w.setWindow i
        { w.windows i with options := World.setShown (w.windows i).options true }).contents p := by
      rw [World.toggle, shown]
      cases p <;> rfl
    rw [same, contents_window]
    split
    · rename_i here
      rw [here]
      rfl
    · rfl
  | true =>
    refine transfers_released (p := .window i) (fun p => ?_)
      (by simp [World.toggle, shown, World.contents])
    have same : (w.toggle i).contents p = (w.setWindow i
        ⟨World.setShown (w.windows i).options false, none, (w.windows i).selfUniqueId⟩).contents
          p := by
      rw [World.toggle, shown]
      cases p <;> rfl
    rw [same, contents_window]

theorem transfers_exchange {i : Window} {x : Sources} {collection : Option (Collection H)}
    (at' : w.serve = .exchange i x collection) :
    ReflTransGen Holdings.Transfer w.holdings
      { w.setSlot i collection with serve := .delete i x (w.mAggregatedWindows i) }.holdings := by
  have free : w.holdings.owned .old = none := by simp [World.contents, at']
  have empty : (w.holdings.move .old (.slot i)).owned (.slot i) = none := by
    rw [Holdings.owned_move, if_pos rfl]
  refine (Holdings.transfers_move (.slot i) free).trans ?_
  convert Holdings.transfers_move .collection empty using 1
  refine Holdings.ext_owned (fun p => ?_) rfl
  rw [Holdings.owned_move, Holdings.owned_move, Holdings.owned_move]
  cases p with
  | slot j =>
    by_cases here : j = i
    · simp [World.contents, World.setSlot, at', here]
    · simp [World.contents, World.setSlot, here]
  | _ => simp [World.contents, World.setSlot, at']

theorem transfers_delete {i : Window} {x : Sources} {old : Option (Collection H)}
    (at' : w.serve = .delete i x old) :
    ReflTransGen Holdings.Transfer w.holdings
      { w with serve := .loop (i + 1) x, history := delete w.history old }.holdings := by
  have here : w.contents .old = old := by simp [World.contents, at']
  refine transfers_released (p := .old) (fun p => ?_) (by rw [here])
  cases p <;> simp [World.contents, at']

theorem transfers_take {i : Window} {val : Collection H} (at' : w.frame = .exchange i)
    (there : w.mAggregatedWindows i = some val) :
    ReflTransGen Holdings.Transfer w.holdings
      { w.setSlot i none with frame := .assign i (some val) }.holdings := by
  have free : w.holdings.owned .newAggregatedStats = none := by simp [World.contents, at']
  convert Holdings.transfers_move (.slot i) free using 1
  refine Holdings.ext_owned (fun p => ?_) rfl
  rw [Holdings.owned_move]
  cases p with
  | slot j =>
    by_cases here : j = i
    · simp [World.contents, World.setSlot, here]
    · simp [World.contents, World.setSlot, here]
  | _ => simp [World.contents, World.setSlot, at', there]

theorem transfers_assign {i : Window} {val : Collection H}
    (at' : w.frame = .assign i (some val)) :
    ReflTransGen Holdings.Transfer w.holdings
      { w.assign i val with frame := .display i }.holdings := by
  have empty : (w.holdings.drop (.window i)).owned (.window i) = none := by
    rw [Holdings.owned_drop, if_pos rfl]
  refine (Holdings.transfers_drop _ (.window i)).trans ?_
  convert Holdings.transfers_move .newAggregatedStats empty using 1
  refine Holdings.ext_owned (fun p => ?_) ?_
  · rw [Holdings.owned_move, Holdings.owned_drop, Holdings.owned_drop]
    cases p with
    | window j =>
      by_cases here : j = i
      · simp [World.contents, World.assign, World.setWindow, at', here]
      · simp [World.contents, World.assign, World.setWindow, here]
    | _ => simp [World.contents, World.assign, World.setWindow, at']
  · simp [World.assign, delete, World.contents, Holdings.drop, Holdings.move, Function.comp_def]

theorem transfers_aggregate {i : Window} {x : Sources} {c : Collection H} {i' : Nat}
    (at' : w.serve = .loop i' x) (fresh : ¬ Outstanding w.history c.address) :
    ReflTransGen Holdings.Transfer w.holdings
      { w with
        serve := .exchange i x (some c)
        history := w.history ++ [Transaction.obtained c.address] }.holdings := by
  have free : w.holdings.owned .collection = none := by simp [World.contents, at']
  convert ReflTransGen.single (Holdings.Transfer.obtain free fresh) using 1
  refine Holdings.ext_owned (fun p => ?_) rfl
  cases p <;> simp [World.contents, at']

theorem transfers_destroy :
    ReflTransGen Holdings.Transfer w.holdings
      { w.destroy with release := .destroyed }.holdings := by
  refine transfers_all (List.nodup_finRange _) List.mem_finRange (f := .slot)
    (fun i j same => by cases same; rfl) (fun p => ?_) rfl
  cases p <;> simp [World.contents, World.destroy]

theorem transfers_unload :
    ReflTransGen Holdings.Transfer w.holdings
      { w.unload with release := .unloaded }.holdings := by
  refine transfers_all (List.nodup_finRange _) List.mem_finRange (f := .window)
    (fun i j same => by cases same; rfl) (fun p => ?_) rfl
  cases p <;> simp [World.contents, World.unload]

theorem transfers_reset : ReflTransGen Holdings.Transfer w.holdings w.reset.holdings := by
  refine transfers_all (List.nodup_reverse.mpr (List.nodup_finRange _))
    (fun i => List.mem_reverse.mpr (List.mem_finRange i)) (f := .window)
    (fun i j same => by cases same; rfl) (fun p => ?_) rfl
  cases p <;> simp [World.contents, World.reset]

omit [DecidableEq H] in
theorem contents_options (i : Window) (o : HealWindowOptions) (p : Place) :
    (w.setWindow i { w.windows i with options := o }).contents p = w.contents p := by
  rw [contents_window]
  split
  · rename_i here
    rw [here]
    rfl
  · rfl

theorem Step.transfers {l : Label H} (step : Step w l w') :
    ReflTransGen Holdings.Transfer w.holdings w'.holdings := by
  cases step with
  | aggregate _ _ at' _ fresh => exact transfers_aggregate at' fresh
  | exchange at' => exact transfers_exchange at'
  | delete at' => exact transfers_delete at'
  | toggle => exact transfers_toggle _
  | take at' there => exact transfers_take at' there
  | assign at' => exact transfers_assign at'
  | destroy => exact transfers_destroy
  | unload => exact transfers_unload
  | reset => exact transfers_reset
  | configure => exact transfers_quiet (contents_options _ _) rfl
  | @closeButton i at' =>
    refine transfers_quiet (fun p => ?_) rfl
    refine .trans ?_ (contents_options i (World.setShown (w.windows i).options false) p)
    cases p <;> simp [World.contents, World.setWindow, at']
  | _ =>
    refine transfers_quiet (fun p => ?_) rfl
    cases p <;> simp [World.contents, *]

structure Closing (w : World H) : Prop where
  frame : w.release ≠ .running → w.frame = .idle
  serve : w.release = .destroyed ∨ w.release = .unloaded → w.serve = .returned
  slots : w.release = .destroyed ∨ w.release = .unloaded → ∀ i, w.mAggregatedWindows i = none
  windows : w.release = .unloaded → ∀ i, (w.windows i).currentAggregatedStats = none

omit [DecidableEq H] in
theorem Closing.initial {options : Window → HealWindowOptions} {debugMode : Bool} :
    Closing (World.initial H options debugMode) where
  frame _ := rfl
  serve := by rintro (destroyed | unloaded) <;> contradiction
  slots _ _ := rfl
  windows _ _ := rfl

theorem Closing.step {l : Label H} (closing : Closing w) (step : Step w l w') : Closing w' := by
  obtain ⟨frame, serve, slots, windows⟩ := closing
  cases step with
  | toggle running =>
    exact ⟨by simpa using frame, by simpa using serve, by simpa using slots,
      by simp [running]⟩
  | _ => constructor <;> simp_all [World.setWindow, World.setSlot, World.assign, World.reset,
      World.destroy, World.unload]

end Steps

section Runs

variable {options : Window → HealWindowOptions} {debugMode : Bool} {ls : List (Label H)}
  {w : World H}

theorem sound_initial : (World.initial H options debugMode).holdings.Sound where
  balanced := balanced_nil
  outstanding p h has := by cases p <;> cases has
  unique p q h has := by cases p <;> cases has

/-- The collections of an aggregation that has come to its end are all deleted,
and none of them twice. -/
theorem deleted_once (run : Run Step (World.initial H options debugMode) ls w) :
    w.holdings.Sound ∧ (∀ a, ¬ w.holdings.Lost a) ∧
      (w.release = .unloaded → ∀ a, releases w.history a = obtains w.history a) := by
  have transfers : ReflTransGen Holdings.Transfer
      (World.initial H options debugMode).holdings w.holdings :=
    run.invariant (fun _ => True)
      (P := fun w => ReflTransGen Holdings.Transfer
        (World.initial H options debugMode).holdings w.holdings)
      (fun before _ step => before.trans step.transfers) .refl fun _ _ => trivial
  have closing : Closing w :=
    run.invariant (fun _ => True) (fun before _ step => before.step step) .initial
      fun _ _ => trivial
  obtain ⟨sound, lost⟩ := sound_initial.transfers transfers
  have none : ∀ a, ¬ w.holdings.Lost a := fun a gone =>
    not_outstanding_nil ((lost a).mp gone).1
  refine ⟨sound, none, fun unloaded => ?_⟩
  refine (sound.released_iff fun p => ?_).mpr fun ⟨a, gone⟩ => none a gone
  have frame := closing.frame (by simp [unloaded])
  have serve := closing.serve (.inr unloaded)
  cases p with
  | slot i => simp [World.contents, closing.slots (.inr unloaded) i]
  | window i => simp [World.contents, closing.windows unloaded i]
  | _ => simp [World.contents, frame, serve]

theorem obtains_deletes {ι : Type} (is : List ι) (f : ι → Option (Collection H))
    (history : List (Transaction H)) (a : H) :
    obtains (is.foldl (fun history i => delete history (f i)) history) a = obtains history a := by
  induction is generalizing history with
  | nil => rfl
  | cons i is ih =>
    rw [List.foldl_cons, ih, delete]
    cases f i with
    | none => simp
    | some c => simp

end Runs

theorem deleted_once_untaken : ∃ ls w,
    Run Step (World.initial Nat (fun i => { shown := i.val = 0 }) false) ls w ∧
      w.release = .unloaded ∧ obtains w.history 7 = 1 ∧ releases w.history 7 = 1 := by
  let start := World.initial Nat (fun i => { shown := i.val = 0 }) false
  let first : Window := ⟨0, by decide⟩
  obtain ⟨ls, w, run, serve, slots, frame, release, obtained⟩ : ∃ ls w,
      Run Step start ls w ∧ w.serve = .loop 1 start.sources ∧
        (∀ j ≠ first, w.mAggregatedWindows j = none) ∧ w.frame = .idle ∧ w.release = .running ∧
        obtains w.history 7 = 1 :=
    ⟨_, _, ((((Run.nil.snoc (.goOn rfl rfl)).snoc (.callback rfl rfl)).snoc
      (.aggregate (i := first) {} {} rfl rfl (not_outstanding_nil (h := 7)))).snoc
      (.exchange rfl)).snoc (.delete rfl), rfl, fun j apart => Function.update_of_ne apart _ _,
      rfl, rfl, by decide⟩
  obtain ⟨ls, round⟩ := round_hidden run serve (by decide) fun j after =>
    ⟨decide_eq_false (Nat.ne_of_gt after),
      slots j fun same => absurd (congrArg Fin.val same) (Nat.ne_of_gt after)⟩
  have final := ((((((round.snoc (.setTimer rfl)).snoc (.store release frame)).snoc
    (.wake rfl)).snoc (.wait rfl rfl)).snoc (.isShutdown rfl rfl)).snoc (.destroy rfl rfl)).snoc
    (.unload rfl)
  refine ⟨_, _, final, rfl, ?_, ((deleted_once final).2.2 rfl 7).trans ?_⟩ <;>
    exact ((obtains_deletes _ _ _ 7).trans (obtains_deletes _ _ _ 7)).trans obtained

end ArcdpsHealing.Offloaded
