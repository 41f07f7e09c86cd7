import ArcdpsHealing.Gui.Anchors

universe u

namespace ArcdpsHealing.Gui

open Lib Relation Settings

/-- The windows that there are, at their positions. None has the id 0. -/
structure Screen (P : Type u) where
  findWindowByID : UInt32 → Option P
  noWindow : findWindowByID 0 = none

variable {n : Nat} {P : Type u}

namespace Screen

variable (screen : Screen P)

def move (id : UInt32) (position : P) : Screen P where
  findWindowByID key :=
    if key = id ∧ (screen.findWindowByID id).isSome = true then some position
    else screen.findWindowByID key
  noWindow := by
    rw [if_neg, screen.noWindow]
    rintro ⟨rfl, shown⟩
    rw [screen.noWindow] at shown
    cases shown

variable {screen}

theorem findWindowByID_move_self {id : UInt32} {here : P}
    (shown : screen.findWindowByID id = some here) (position : P) :
    (screen.move id position).findWindowByID id = some position :=
  if_pos ⟨rfl, by rw [shown]; rfl⟩

theorem findWindowByID_move_of_ne {id key : UInt32} (other : key ≠ id) (position : P) :
    (screen.move id position).findWindowByID key = screen.findWindowByID key :=
  if_neg fun same => other same.1

theorem ne_zero_of_shown {id : UInt32} {here : P} (shown : screen.findWindowByID id = some here) :
    id ≠ 0 := by
  rintro rfl
  rw [screen.noWindow] at shown
  cases shown

end Screen

structure Repositioning (P : Type u) where
  screen : Screen P
  lastChangedPos : Nat := 0

section

variable (windowReposition : HealWindowContext → Option P → P) (ws : Windows n)

/-- Where the rule of a window puts it, given where its anchor is. -/
def target (screen : Screen P) (i : Fin n) : P :=
  windowReposition (ws i) (screen.findWindowByID (ws i).anchorWindowId)

/-- The window is where its rule puts it, if there is such a window. -/
def AtRest (screen : Screen P) (i : Fin n) : Prop :=
  ∀ here, screen.findWindowByID (ws i).windowId = some here →
    here = target windowReposition ws screen i

variable [DecidableEq P]

/-- One round of the inner loop. -/
def visit (s : Repositioning P) (i : Fin n) : Repositioning P :=
  match s.screen.findWindowByID (ws i).windowId with
  | none => s
  | some here =>
    let position := target windowReposition ws s.screen i
    if position ≠ here then ⟨s.screen.move (ws i).windowId position, i⟩ else s

/-- The inner loop, and whether it returned from the function. -/
def pass (iterations : Nat) : List (Fin n) → Repositioning P → Bool × Repositioning P
  | [], s => (false, s)
  | i :: is, s =>
    if iterations > 0 ∧ i.val = s.lastChangedPos then (true, s)
    else pass iterations is (visit windowReposition ws s i)

/-- The outer loop, with how many rounds of it are left. -/
def passes : Nat → Nat → Repositioning P → Bool × Repositioning P
  | 0, _, s => (false, s)
  | left + 1, iterations, s =>
    match pass windowReposition ws iterations (List.finRange n) s with
    | (true, s) => (true, s)
    | (false, s) => passes left (iterations + 1) s

/-- Whether it returned early, and what it left behind. -/
def repositionWindows (screen : Screen P) : Bool × Repositioning P :=
  passes windowReposition ws n 0 { screen := screen }

end

section Visit

variable {windowReposition : HealWindowContext → Option P → P} {ws : Windows n}

theorem atRest_of_not_shown {screen : Screen P} {i : Fin n}
    (hidden : screen.findWindowByID (ws i).windowId = none) :
    AtRest windowReposition ws screen i :=
  fun _ shown => absurd (hidden.symm.trans shown) nofun

theorem AtRest.move {screen : Screen P} {i j : Fin n} (distinct : DistinctIds ws) {here : P}
    (shown : screen.findWindowByID (ws i).windowId = some here) (other : j ≠ i)
    (free : ¬ Anchors ws j i) (h : AtRest windowReposition ws screen j) (position : P) :
    AtRest windowReposition ws (screen.move (ws i).windowId position) j := by
  have known := Screen.ne_zero_of_shown shown
  have self : (ws j).windowId ≠ (ws i).windowId := fun same =>
    other (distinct i j known same.symm).symm
  have anchor : (ws j).anchorWindowId ≠ (ws i).windowId := fun same =>
    free ⟨same.symm ▸ known, same.symm⟩
  intro there
  rw [Screen.findWindowByID_move_of_ne self, target, Screen.findWindowByID_move_of_ne anchor]
  exact h there

theorem atRest_move_self {screen : Screen P} {i : Fin n} {here : P}
    (shown : screen.findWindowByID (ws i).windowId = some here)
    (anchored : (ws i).anchorWindowId ≠ (ws i).windowId) :
    AtRest windowReposition ws
      (screen.move (ws i).windowId (target windowReposition ws screen i)) i := by
  intro there
  rw [Screen.findWindowByID_move_self shown]
  rw [target, target, Screen.findWindowByID_move_of_ne anchored]
  exact fun same => (Option.some.inj same).symm

variable [DecidableEq P]

theorem visit_cases (s : Repositioning P) (i : Fin n) :
    visit windowReposition ws s i = s ∧ AtRest windowReposition ws s.screen i ∨
      ¬ AtRest windowReposition ws s.screen i ∧
      ∃ here, s.screen.findWindowByID (ws i).windowId = some here ∧
        visit windowReposition ws s i =
          ⟨s.screen.move (ws i).windowId (target windowReposition ws s.screen i), i⟩ := by
  unfold visit
  cases shown : s.screen.findWindowByID (ws i).windowId with
  | none => exact .inl ⟨rfl, atRest_of_not_shown shown⟩
  | some here =>
    dsimp only
    by_cases moved : target windowReposition ws s.screen i ≠ here
    · rw [if_pos moved]
      exact .inr ⟨fun rest => moved (rest here shown).symm, here, rfl, rfl⟩
    · rw [if_neg moved]
      refine .inl ⟨rfl, fun there shown' => ?_⟩
      rw [← Option.some.inj (shown.symm.trans shown')]
      exact (not_not.mp moved).symm

end Visit

theorem passes_succ [DecidableEq P] (windowReposition : HealWindowContext → Option P → P)
    (ws : Windows n) (left iterations : Nat) (s : Repositioning P) :
    passes windowReposition ws (left + 1) iterations s =
      if (pass windowReposition ws iterations (List.finRange n) s).1 = true then
        pass windowReposition ws iterations (List.finRange n) s
      else
        passes windowReposition ws left (iterations + 1)
          (pass windowReposition ws iterations (List.finRange n) s).2 := by
  rw [passes]
  generalize pass windowReposition ws iterations (List.finRange n) s = outcome
  obtain ⟨exit, s'⟩ := outcome
  cases exit <;> rfl

theorem val_of_split {before after : List (Fin n)} {i : Fin n}
    (split : before ++ i :: after = List.finRange n) : i.val = before.length := by
  have here : (before ++ i :: after)[before.length]? = some i := by simp
  rw [split, List.getElem?_eq_some_iff] at here
  obtain ⟨inside, same⟩ := here
  rw [← same, List.getElem_finRange]
  rfl

section EarlyExit

variable (windowReposition : HealWindowContext → Option P → P) (ws : Windows n)

def Settled (s : Repositioning P) (i : Fin n) : Prop :=
  AtRest windowReposition ws s.screen i ∨
    i.val = s.lastChangedPos ∧ (ws i).anchorWindowId = (ws i).windowId

structure SinceChange (iterations visited : Nat) (s : Repositioning P) : Prop where
  later : ∀ i : Fin n, s.lastChangedPos ≤ i.val → i.val < visited →
    Settled windowReposition ws s i
  around : iterations > 0 → visited ≤ s.lastChangedPos →
    ∀ i : Fin n, i.val < visited ∨ s.lastChangedPos ≤ i.val → Settled windowReposition ws s i

variable {windowReposition ws}

theorem SinceChange.next {iterations : Nat} {s : Repositioning P}
    (h : SinceChange windowReposition ws iterations n s) :
    SinceChange windowReposition ws (iterations + 1) 0 s :=
  ⟨fun _ _ none => absurd none (Nat.not_lt_zero _), fun _ _ i seen =>
    h.later i (seen.resolve_left (Nat.not_lt_zero _)) i.isLt⟩

variable [DecidableEq P]

theorem SinceChange.visit {iterations : Nat} {s : Repositioning P} {i : Fin n}
    (h : SinceChange windowReposition ws iterations i.val s)
    (goes : ¬ (iterations > 0 ∧ i.val = s.lastChangedPos)) :
    SinceChange windowReposition ws iterations (i.val + 1) (visit windowReposition ws s i) := by
  rcases visit_cases s i with ⟨same, rest⟩ | ⟨_, here, shown, moved⟩
  · rw [same]
    have here (j : Fin n) (same : j.val = i.val) : Settled windowReposition ws s j :=
      .inl (Fin.ext same ▸ rest)
    constructor
    · intro j since before
      rcases Nat.lt_succ_iff_lt_or_eq.mp before with earlier | now
      · exact h.later j since earlier
      · exact here j now
    · intro again ahead j seen
      rcases seen with before | since
      · rcases Nat.lt_succ_iff_lt_or_eq.mp before with earlier | now
        · exact h.around again (Nat.le_of_succ_le ahead) j (.inl earlier)
        · exact here j now
      · exact h.around again (Nat.le_of_succ_le ahead) j (.inr since)
  · rw [moved]
    constructor
    · intro j since before
      have now : j = i := Fin.ext (Nat.le_antisymm (Nat.le_of_lt_succ before) since)
      subst now
      by_cases self : (ws j).anchorWindowId = (ws j).windowId
      · exact .inr ⟨rfl, self⟩
      · exact .inl (atRest_move_self shown self)
    · exact fun _ ahead => absurd ahead (Nat.not_succ_le_self i.val)

theorem SinceChange.pass {iterations : Nat} {before after : List (Fin n)} {s : Repositioning P}
    (split : before ++ after = List.finRange n)
    (h : SinceChange windowReposition ws iterations before.length s) :
    let left := pass windowReposition ws iterations after s
    (left.1 = true → ∀ i, Settled windowReposition ws left.2 i) ∧
      (left.1 = false → SinceChange windowReposition ws iterations n left.2) := by
  induction after generalizing before s with
  | nil =>
    have all : before.length = n := by
      rw [List.append_nil] at split
      rw [split, List.length_finRange]
    rw [all] at h
    exact ⟨nofun, fun _ => h⟩
  | cons i after ih =>
    have position := val_of_split split
    rw [← position] at h
    rw [Gui.pass]
    split
    · rename_i returns
      refine ⟨fun _ j => ?_, nofun⟩
      exact h.around returns.1 (Nat.le_of_eq returns.2) j
        (returns.2 ▸ Nat.lt_or_ge j.val i.val)
    · rename_i goes
      have visited := h.visit goes
      rw [position] at visited
      have longer : (before ++ [i]) ++ after = List.finRange n := by simpa using split
      exact ih longer (by simpa using visited)

theorem settled_passes {left iterations : Nat} {s : Repositioning P}
    (h : SinceChange windowReposition ws iterations 0 s)
    (early : (passes windowReposition ws left iterations s).1 = true) (i : Fin n) :
    Settled windowReposition ws (passes windowReposition ws left iterations s).2 i := by
  induction left generalizing iterations s with
  | zero => cases early
  | succ left ih =>
    obtain ⟨returned, through⟩ := h.pass (List.nil_append (List.finRange n))
    rw [passes_succ] at early ⊢
    split at early
    · rename_i exit
      rw [if_pos exit]
      exact returned exit i
    · rename_i goes
      rw [if_neg goes]
      exact ih (through (Bool.not_eq_true _ ▸ goes)).next early

end EarlyExit

section Acyclic

variable {windowReposition : HealWindowContext → Option P → P} {ws : Windows n}

def RestUpTo (windowReposition : HealWindowContext → Option P → P) (ws : Windows n)
    (level : Nat) (done : List (Fin n)) (screen : Screen P) : Prop :=
  ∀ i, height (Anchors ws) i < level ∨ i ∈ done ∧ height (Anchors ws) i = level →
    AtRest windowReposition ws screen i

theorem RestUpTo.next {level : Nat} {screen : Screen P}
    (h : RestUpTo windowReposition ws level (List.finRange n) screen) :
    RestUpTo windowReposition ws (level + 1) [] screen := by
  intro i lower
  have lower := lower.resolve_right fun none => absurd none.1 List.not_mem_nil
  rcases Nat.lt_succ_iff_lt_or_eq.mp lower with below | here
  · exact h i (.inl below)
  · exact h i (.inr ⟨List.mem_finRange i, here⟩)

theorem not_self_anchored (acyclic : Acyclic (Anchors ws)) {i : Fin n}
    (known : (ws i).windowId ≠ 0) : (ws i).anchorWindowId ≠ (ws i).windowId :=
  fun self => acyclic.ne ⟨self.symm ▸ known, self.symm⟩ rfl

theorem Settled.atRest (acyclic : Acyclic (Anchors ws)) {s : Repositioning P} {i : Fin n}
    (h : Settled windowReposition ws s i) : AtRest windowReposition ws s.screen i := by
  rcases h with rest | ⟨_, self⟩
  · exact rest
  · intro here shown
    exact absurd self (not_self_anchored acyclic (Screen.ne_zero_of_shown shown))

variable [DecidableEq P]

theorem RestUpTo.visit (distinct : DistinctIds ws) (acyclic : Acyclic (Anchors ws)) {level : Nat}
    {done : List (Fin n)} {s : Repositioning P}
    (h : RestUpTo windowReposition ws level done s.screen) (i : Fin n) :
    RestUpTo windowReposition ws level (done ++ [i]) (visit windowReposition ws s i).screen := by
  rcases visit_cases s i with ⟨same, rest⟩ | ⟨moves, here, shown, moved⟩
  · rw [same]
    rintro j (below | ⟨member, level⟩)
    · exact h j (.inl below)
    · rcases List.mem_append.mp member with member | now
      · exact h j (.inr ⟨member, level⟩)
      · rw [List.mem_singleton.mp now]
        exact rest
  · rw [moved]
    -- What moves has not been at rest, so nothing that is can be anchored to it.
    have high : level ≤ height (Anchors ws) i :=
      Nat.le_of_not_lt fun below => moves (h i (.inl below))
    have keeps (j : Fin n) (low : height (Anchors ws) j ≤ level)
        (rest : AtRest windowReposition ws s.screen j) : AtRest windowReposition ws
          (s.screen.move (ws i).windowId (target windowReposition ws s.screen i)) j := by
      have other : j ≠ i := fun same => moves (same ▸ rest)
      have free : ¬ Anchors ws j i := fun edge => by
        have := height_lt acyclic edge
        omega
      exact rest.move distinct shown other free _
    rintro j (below | ⟨member, same⟩)
    · exact keeps j (Nat.le_of_lt below) (h j (.inl below))
    · rcases List.mem_append.mp member with member | now
      · exact keeps j (Nat.le_of_eq same) (h j (.inr ⟨member, same⟩))
      · rw [List.mem_singleton.mp now]
        exact atRest_move_self shown
          (not_self_anchored acyclic (Screen.ne_zero_of_shown shown))

theorem RestUpTo.pass (distinct : DistinctIds ws) (acyclic : Acyclic (Anchors ws))
    {level iterations : Nat} {done is : List (Fin n)} {s : Repositioning P}
    (h : RestUpTo windowReposition ws level done s.screen)
    (through : (pass windowReposition ws iterations is s).1 = false) :
    RestUpTo windowReposition ws level (done ++ is)
      (pass windowReposition ws iterations is s).2.screen := by
  induction is generalizing done s with
  | nil =>
    rw [List.append_nil]
    exact h
  | cons i is ih =>
    rw [Gui.pass] at through ⊢
    split at through
    · cases through
    · rename_i goes
      rw [if_neg goes]
      have longer := ih (h.visit distinct acyclic i) through
      rwa [List.append_assoc] at longer

theorem restUpTo_passes (distinct : DistinctIds ws) (acyclic : Acyclic (Anchors ws))
    {left iterations : Nat} {s : Repositioning P}
    (h : RestUpTo windowReposition ws iterations [] s.screen)
    (through : (passes windowReposition ws left iterations s).1 = false) :
    RestUpTo windowReposition ws (iterations + left) []
      (passes windowReposition ws left iterations s).2.screen := by
  -- Each iteration settles one level more, unless the function returns.
  induction left generalizing iterations s with
  | zero => exact h
  | succ left ih =>
    rw [passes_succ] at through ⊢
    split at through
    · rename_i exit
      cases exit.symm.trans through
    · rename_i goes
      rw [if_neg goes]
      have passed : RestUpTo windowReposition ws iterations (List.finRange n) _ :=
        h.pass distinct acyclic (Bool.not_eq_true _ ▸ goes)
      have settled := ih passed.next through
      rwa [Nat.add_right_comm, Nat.add_assoc] at settled

end Acyclic

section Frame

/-- The same windows are there, and those that are not among `ws` have not moved. -/
structure MovesOnly (ws : Windows n) (before after : Screen P) : Prop where
  shown : ∀ id, (after.findWindowByID id).isSome = (before.findWindowByID id).isSome
  others : ∀ id, (∀ i, (ws i).windowId ≠ id) → after.findWindowByID id = before.findWindowByID id

variable {windowReposition : HealWindowContext → Option P → P} {ws : Windows n}

theorem MovesOnly.refl (screen : Screen P) : MovesOnly ws screen screen :=
  ⟨fun _ => rfl, fun _ _ => rfl⟩

theorem MovesOnly.trans {screen screen' screen'' : Screen P} (h : MovesOnly ws screen screen')
    (h' : MovesOnly ws screen' screen'') : MovesOnly ws screen screen'' :=
  ⟨fun id => (h'.shown id).trans (h.shown id),
    fun id foreign => (h'.others id foreign).trans (h.others id foreign)⟩

variable [DecidableEq P]

theorem movesOnly_visit (s : Repositioning P) (i : Fin n) :
    MovesOnly ws s.screen (visit windowReposition ws s i).screen := by
  rcases visit_cases s i with ⟨same, _⟩ | ⟨_, here, shown, moved⟩
  · rw [same]
    exact .refl _
  · rw [moved]
    refine ⟨fun id => ?_, fun id foreign => ?_⟩
    · by_cases self : id = (ws i).windowId
      · subst self
        rw [Screen.findWindowByID_move_self shown, shown]
        rfl
      · rw [Screen.findWindowByID_move_of_ne self]
    · exact Screen.findWindowByID_move_of_ne (foreign i).symm _

theorem movesOnly_pass {iterations : Nat} (is : List (Fin n)) (s : Repositioning P) :
    MovesOnly ws s.screen (pass windowReposition ws iterations is s).2.screen := by
  induction is generalizing s with
  | nil => exact .refl _
  | cons i is ih =>
    rw [pass]
    split
    · exact .refl _
    · exact (movesOnly_visit s i).trans (ih _)

theorem movesOnly_passes (left iterations : Nat) (s : Repositioning P) :
    MovesOnly ws s.screen (passes windowReposition ws left iterations s).2.screen := by
  induction left generalizing iterations s with
  | zero => exact .refl _
  | succ left ih =>
    have passed : MovesOnly ws s.screen
        (pass windowReposition ws iterations (List.finRange n) s).2.screen := movesOnly_pass _ s
    rw [passes_succ]
    split
    · exact passed
    · exact passed.trans (ih _ _)

end Frame

/-- Without cycles all windows end up at rest. In any graph an early return
leaves at rest what has not been moved last, anchored to itself. -/
theorem repositionWindows_atRest [DecidableEq P]
    (windowReposition : HealWindowContext → Option P → P) (ws : Windows n)
    (distinct : DistinctIds ws) (screen : Screen P) :
    let left := repositionWindows windowReposition ws screen
    (Acyclic (Anchors ws) → ∀ i, AtRest windowReposition ws left.2.screen i) ∧
      (left.1 = true → ∀ i, AtRest windowReposition ws left.2.screen i ∨
        i.val = left.2.lastChangedPos ∧ (ws i).anchorWindowId = (ws i).windowId) ∧
      MovesOnly ws screen left.2.screen := by
  intro left
  have start : SinceChange windowReposition ws 0 0 { screen := screen } :=
    ⟨fun _ _ none => absurd none (Nat.not_lt_zero _), fun again => absurd again (Nat.lt_irrefl 0)⟩
  have early (returned : left.1 = true) (i : Fin n) : Settled windowReposition ws left.2 i :=
    settled_passes start returned i
  refine ⟨fun acyclic i => ?_, early, movesOnly_passes n 0 { screen := screen }⟩
  cases exit : left.1 with
  | true => exact (early exit i).atRest acyclic
  | false =>
    have none : RestUpTo windowReposition ws 0 [] screen := fun i h => by simp at h
    have all := restUpTo_passes distinct acyclic none exit
    have low := height_lt_card acyclic i
    rw [Fintype.card_fin] at low
    exact all i (.inl (by omega))

def beside (_ : HealWindowContext) (anchor : Option Nat) : Nat :=
  match anchor with
  | some x => x + 1
  | none => 0

def columns : Screen Nat where
  findWindowByID id := if id = 0 then none else some id.toNat
  noWindow := rfl

theorem repositionWindows_atRest_pair :
    AtRest beside (windows ![(100, 200), (200, 0)])
      (repositionWindows beside (windows ![(100, 200), (200, 0)]) columns).2.screen 0 := by
  have acyclic : Acyclic (Anchors (windows ![(100, 200), (200, 0)])) :=
    .of_lt (f := fun i => 1 - i.val) (by decide)
  exact (repositionWindows_atRest beside (windows ![(100, 200), (200, 0)]) (by decide) columns).1
    acyclic 0

/-- A window that is anchored to itself goes on moving, and windows of the same
id are where the rule of only one of them puts them. -/
theorem repositionWindows_moving :
    let left := repositionWindows beside (windows ![(100, 100), (0, 0)]) columns
    let shared := repositionWindows beside (windows ![(100, 0), (100, 200)]) columns
    (left.1 = true ∧ left.2.screen.findWindowByID 100 = some 101 ∧
      target beside (windows ![(100, 100), (0, 0)]) left.2.screen 0 = 102) ∧
    Acyclic (Anchors (windows ![(100, 0), (100, 200)])) ∧
      shared.2.screen.findWindowByID 100 = some 201 ∧
      target beside (windows ![(100, 0), (100, 200)]) shared.2.screen 0 = 0 := by
  have acyclic : Acyclic (Anchors (windows ![(100, 0), (100, 200)])) :=
    .of_lt (f := fun i => i.val) (by decide)
  exact ⟨by decide, acyclic, by decide⟩

end ArcdpsHealing.Gui
