import ArcdpsHealing.Gui.Content
import Mathlib.Data.List.Nodup
import Mathlib.Data.List.ReduceOption

namespace ArcdpsHealing.Gui.Content

open Arcdps Lib Settings Processor

theorem xor_ne_left (b : Bool) (p : Prop) [Decidable p] : (b ^^ decide p) ≠ b ↔ p := by
  by_cases holds : p
  · cases b <;> simp [holds]
  · cases b <;> simp [holds]

section Touch

variable {entry : Entry} {clicked : Bool} {l : List DetailsWindowState} {id : UInt64}

def Opens (l : List DetailsWindowState) (id : UInt64) : Bool :=
  l.any fun state => state.id = id && state.isOpen

theorem ids_touch (entry : Entry) (clicked : Bool) (l : List DetailsWindowState) :
    (touch entry clicked l).map (·.id) = l.map (·.id) ∨
      entry.id ∉ l.map (·.id) ∧
        (touch entry clicked l).map (·.id) = l.map (·.id) ++ [entry.id] := by
  induction l with
  | nil =>
    cases clicked with
    | false => exact .inl rfl
    | true => exact .inr ⟨List.not_mem_nil, rfl⟩
  | cons state rest ih =>
    unfold touch
    by_cases same : state.id = entry.id
    · rw [if_pos same, List.map_cons, List.map_cons, same]
      exact .inl rfl
    · rw [if_neg same, List.map_cons, List.map_cons]
      obtain kept | ⟨new, added⟩ := ih
      · exact .inl (congrArg _ kept)
      · refine .inr ⟨?_, congrArg _ added⟩
        rw [List.mem_cons, not_or]
        exact ⟨Ne.symm same, new⟩

theorem distinct_touch (distinct : (l.map (·.id)).Nodup) :
    ((touch entry clicked l).map (·.id)).Nodup := by
  obtain kept | ⟨new, added⟩ := ids_touch entry clicked l
  · rw [kept]
    exact distinct
  · rw [added]
    exact List.nodup_append.mpr ⟨distinct, List.nodup_singleton _, fun a mem b last => by
      rw [List.mem_singleton] at last
      rintro rfl
      exact new (last ▸ mem)⟩

theorem opens_eq_false (missing : id ∉ l.map (·.id)) : Opens l id = false := by
  rw [Opens, List.any_eq_false]
  intro state mem
  rw [Bool.and_eq_true, decide_eq_true_iff]
  rintro ⟨rfl, -⟩
  exact missing (List.mem_map_of_mem mem)

theorem opens_touch (distinct : (l.map (·.id)).Nodup) :
    Opens (touch entry clicked l) id = (Opens l id ^^ (decide (entry.id = id) && clicked)) := by
  induction l with
  | nil =>
    cases clicked with
    | false => simp [touch, Opens]
    | true => simp [touch, Opens]
  | cons state rest ih =>
    rw [List.map_cons, List.nodup_cons] at distinct
    unfold touch
    by_cases same : state.id = entry.id
    · rw [if_pos same]
      by_cases here : entry.id = id
      · have gone : Opens rest id = false := opens_eq_false (here ▸ same ▸ distinct.1)
        unfold Opens at gone
        simp [Opens, same, here, gone]
      · simp [Opens, same, here]
    · rw [if_neg same]
      have later := ih distinct.2
      unfold Opens at later
      simp only [Opens, List.any_cons, later]
      by_cases here : state.id = id
      · have other : entry.id ≠ id := fun again => same (here.trans again.symm)
        simp [here, other]
      · simp [here]

theorem mem_touch {state : DetailsWindowState} (distinct : (l.map (·.id)).Nodup)
    (mem : state ∈ touch entry clicked l) :
    state.toEntry = entry ∨ state ∈ l ∧ state.id ≠ entry.id := by
  induction l with
  | nil =>
    cases clicked with
    | false => cases mem
    | true =>
      obtain rfl := List.mem_singleton.mp mem
      exact .inl rfl
  | cons first rest ih =>
    rw [List.map_cons, List.nodup_cons] at distinct
    unfold touch at mem
    by_cases same : first.id = entry.id
    · rw [if_pos same] at mem
      obtain rfl | later := List.mem_cons.mp mem
      · exact .inl rfl
      · refine .inr ⟨List.mem_cons_of_mem _ later, fun again => ?_⟩
        exact distinct.1 (same.trans again.symm ▸ List.mem_map_of_mem later)
    · rw [if_neg same] at mem
      obtain rfl | later := List.mem_cons.mp mem
      · exact .inr ⟨List.mem_cons_self, same⟩
      · obtain updated | ⟨kept, other⟩ := ih distinct.2 later
        · exact .inl updated
        · exact .inr ⟨List.mem_cons_of_mem _ kept, other⟩

end Touch

section Rows

variable {u8FwdN : U8FwdN} {f : Frame} {dataSource other : Enumeration} {v : AggregatedVector}
  {d : Display} {entry : Entry} {entries : List Entry} {place index : Nat}
  {top anonymousMode : Bool} {id : UInt64}

def lastAfter (f : Frame) (dataSource : Enumeration) (v : AggregatedVector) (top : Bool)
    (last : Item) (place : Nat) (entry : Entry) : Item :=
  if IsShown f v top entry then .row dataSource top place else last

def lastDrawn (f : Frame) (dataSource : Enumeration) (v : AggregatedVector) :
    Item → Nat → List Entry → Item
  | last, _, [] => last
  | last, i, entry :: rest =>
    lastDrawn f dataSource v (lastAfter f dataSource v false last i entry) (i + 1) rest

theorem last_drawRow :
    (drawRow u8FwdN f dataSource v place index top anonymousMode entry d).last =
      lastAfter f dataSource v top d.last place entry := by
  unfold drawRow lastAfter
  split <;> rfl

theorem openWindows_drawRow :
    (drawRow u8FwdN f dataSource v place index top anonymousMode entry d).openWindows =
      d.openWindows := by
  unfold drawRow
  split <;> rfl

theorem last_touchDetails : (touchDetails f dataSource entry d).last = d.last := by
  unfold touchDetails
  split <;> rfl

theorem last_contentSingleRow :
    (contentSingleRow u8FwdN f dataSource v place index top anonymousMode entry d).last =
      lastAfter f dataSource v top d.last place entry :=
  last_touchDetails.trans last_drawRow

theorem drawn_contentSingleRow :
    (contentSingleRow u8FwdN f dataSource v place index top anonymousMode entry d).drawn =
      d.drawn ++ if IsShown f v top entry then
        [.row entry.id (makeRow u8FwdN f dataSource v index top anonymousMode entry)] else [] := by
  have same : ∀ d, (touchDetails f dataSource entry d).drawn = d.drawn := by
    intro d
    unfold touchDetails
    split <;> rfl
  unfold contentSingleRow drawRow
  rw [same]
  split
  · rfl
  · exact (List.append_nil _).symm

theorem openWindows_contentSingleRow (details : HasDetails dataSource) :
    (contentSingleRow u8FwdN f dataSource v place index top anonymousMode entry d).openWindows
        dataSource =
      touch entry (decide (f.clicked = some (lastAfter f dataSource v top d.last place entry) ∧
        (f.options.anonymousMode = false ∨ entry.id = f.selfUniqueId)))
        (d.openWindows dataSource) := by
  -- The click counts for the entry that is last, shown or not.
  have click : Clicked f (drawRow u8FwdN f dataSource v place index top anonymousMode entry d)
      entry ↔ f.clicked = some (lastAfter f dataSource v top d.last place entry) ∧
        (f.options.anonymousMode = false ∨ entry.id = f.selfUniqueId) := by
    unfold Clicked
    rw [last_drawRow]
  unfold contentSingleRow touchDetails
  rw [if_pos details]
  refine (Function.update_self _ _ _).trans ?_
  rw [openWindows_drawRow]
  exact congrArg (touch entry · _) (decide_eq_decide.mpr click)

theorem openWindows_contentSingleRow_of_ne (ne : other ≠ dataSource) :
    (contentSingleRow u8FwdN f dataSource v place index top anonymousMode entry d).openWindows
        other = d.openWindows other := by
  unfold contentSingleRow touchDetails
  split
  · refine (Function.update_of_ne ne _ _).trans ?_
    rw [openWindows_drawRow]
  · rw [openWindows_drawRow]

theorem openWindows_contentRows_of_ne (ne : other ≠ dataSource) (i : Nat)
    (entries : List Entry) (d : Display) :
    (contentRows u8FwdN f dataSource v i entries d).openWindows other = d.openWindows other := by
  induction entries generalizing i d with
  | nil => rfl
  | cons entry rest ih => exact (ih (i + 1) _).trans (openWindows_contentSingleRow_of_ne ne)

theorem distinct_contentSingleRow (details : HasDetails dataSource)
    (distinct : ((d.openWindows dataSource).map (·.id)).Nodup) :
    (((contentSingleRow u8FwdN f dataSource v place index top anonymousMode entry d).openWindows
      dataSource).map (·.id)).Nodup := by
  rw [openWindows_contentSingleRow details]
  exact distinct_touch distinct

theorem opens_contentRows_of_not_mem (details : HasDetails dataSource) (i : Nat)
    (distinct : ((d.openWindows dataSource).map (·.id)).Nodup)
    (missing : id ∉ entries.map (·.id)) :
    Opens ((contentRows u8FwdN f dataSource v i entries d).openWindows dataSource) id =
      Opens (d.openWindows dataSource) id := by
  induction entries generalizing i d with
  | nil => rfl
  | cons entry rest ih =>
    rw [List.map_cons, List.mem_cons, not_or] at missing
    refine (ih (i + 1) (distinct_contentSingleRow details distinct) missing.2).trans ?_
    rw [openWindows_contentSingleRow details, opens_touch distinct,
      decide_eq_false (Ne.symm missing.1), Bool.false_and, Bool.xor_false]

theorem opens_contentRows (details : HasDetails dataSource) (i : Nat) {before later : List Entry}
    (distinct : ((d.openWindows dataSource).map (·.id)).Nodup)
    (ids : ((before ++ entry :: later).map (·.id)).Nodup) :
    Opens ((contentRows u8FwdN f dataSource v i (before ++ entry :: later) d).openWindows
        dataSource) entry.id =
      (Opens (d.openWindows dataSource) entry.id ^^
        decide (f.clicked = some (lastDrawn f dataSource v d.last i (before ++ [entry])) ∧
          (f.options.anonymousMode = false ∨ entry.id = f.selfUniqueId))) := by
  induction before generalizing i d with
  | nil =>
    rw [List.nil_append, List.map_cons, List.nodup_cons] at ids
    refine (opens_contentRows_of_not_mem details (i + 1)
      (distinct_contentSingleRow details distinct) ids.1).trans ?_
    rw [openWindows_contentSingleRow details, opens_touch distinct, decide_eq_true rfl,
      Bool.true_and]
    rfl
  | cons first rest ih =>
    rw [List.cons_append, List.map_cons, List.nodup_cons] at ids
    have other : first.id ≠ entry.id := fun same => ids.1 (by
      rw [same, List.map_append, List.map_cons]
      exact List.mem_append_right _ List.mem_cons_self)
    refine (ih (i + 1) (distinct_contentSingleRow details distinct) ids.2).trans ?_
    rw [last_contentSingleRow, openWindows_contentSingleRow details, opens_touch distinct,
      decide_eq_false other, Bool.false_and, Bool.xor_false]
    rfl

theorem mem_contentRows {state : DetailsWindowState} (details : HasDetails dataSource) (i : Nat)
    (distinct : ((d.openWindows dataSource).map (·.id)).Nodup)
    (mem : state ∈ (contentRows u8FwdN f dataSource v i entries d).openWindows dataSource) :
    state.toEntry ∈ entries ∨ state ∈ d.openWindows dataSource ∧ state.id ∉ entries.map (·.id) := by
  induction entries generalizing i d with
  | nil => exact .inr ⟨mem, List.not_mem_nil⟩
  | cons entry rest ih =>
    obtain updated | ⟨here, other⟩ := ih (i + 1) (distinct_contentSingleRow details distinct) mem
    · exact .inl (List.mem_cons_of_mem _ updated)
    · rw [openWindows_contentSingleRow details] at here
      obtain same | ⟨kept, ne⟩ := mem_touch distinct here
      · exact .inl (same ▸ List.mem_cons_self)
      · refine .inr ⟨kept, ?_⟩
        rw [List.map_cons, List.mem_cons, not_or]
        exact ⟨ne, other⟩

/-- A click on a row reaches the entries after it, up to the next row. -/
structure Reaches (f : Frame) (v : AggregatedVector) (entries : List Entry) (k j : Nat) :
    Prop where
  le : k ≤ j
  row : ∃ entry, entries[k]? = some entry ∧ IsShown f v false entry
  hidden : ∀ m entry, k < m → m ≤ j → entries[m]? = some entry → ¬ IsShown f v false entry

theorem lastDrawn_snoc (last : Item) (i : Nat) (entries : List Entry) (entry : Entry) :
    lastDrawn f dataSource v last i (entries ++ [entry]) =
      lastAfter f dataSource v false (lastDrawn f dataSource v last i entries)
        (i + entries.length) entry := by
  induction entries generalizing last i with
  | nil => rfl
  | cons first rest ih =>
    rw [List.length_cons, Nat.add_comm rest.length 1, ← Nat.add_assoc]
    exact ih _ (i + 1)

theorem lastDrawn_eq_row {last : Item} {k : Nat} (fresh : ∀ k, last ≠ .row dataSource false k)
    (entries : List Entry) :
    lastDrawn f dataSource v last 0 entries = .row dataSource false k ↔
      (∃ entry, entries[k]? = some entry ∧ IsShown f v false entry) ∧
        ∀ m entry, k < m → entries[m]? = some entry → ¬ IsShown f v false entry := by
  induction entries using List.reverseRecOn with
  | nil =>
    refine iff_of_false (fresh k) ?_
    rintro ⟨⟨entry, at', -⟩, -⟩
    cases at'
  | append_singleton rest entry ih =>
    rw [lastDrawn_snoc, Nat.zero_add]
    unfold lastAfter
    by_cases shown : IsShown f v false entry
    · rw [if_pos shown]
      constructor
      · rintro ⟨⟩
        refine ⟨⟨entry, List.getElem?_concat_length, shown⟩, fun m e past at' => ?_⟩
        have bound := (List.getElem?_eq_some_iff.mp at').1
        rw [List.length_append, List.length_singleton] at bound
        omega
      · rintro ⟨⟨e, at', -⟩, hidden⟩
        have bound := (List.getElem?_eq_some_iff.mp at').1
        rw [List.length_append, List.length_singleton] at bound
        have last : k = rest.length := by
          by_contra other
          exact hidden rest.length entry (by omega) List.getElem?_concat_length shown
        rw [last]
    · rw [if_neg shown, ih]
      have inside : ∀ m, m ≠ rest.length → (rest ++ [entry])[m]? = rest[m]? := by
        intro m ne
        rcases Nat.lt_or_ge m rest.length with low | high
        · exact List.getElem?_append_left low
        · rw [List.getElem?_append_right high, List.getElem?_eq_none_iff.mpr high,
            List.getElem?_eq_none_iff]
          rw [List.length_singleton]
          omega
      constructor
      · rintro ⟨⟨e, at', row⟩, hidden⟩
        refine ⟨⟨e, ?_, row⟩, fun m e' past at'' => ?_⟩
        · rw [inside k (Nat.ne_of_lt (List.getElem?_eq_some_iff.mp at').1)]
          exact at'
        · by_cases last : m = rest.length
          · subst last
            rw [List.getElem?_concat_length] at at''
            cases at''
            exact shown
          · exact hidden m e' past (inside m last ▸ at'')
      · rintro ⟨⟨e, at', row⟩, hidden⟩
        have ne : k ≠ rest.length := by
          rintro rfl
          rw [List.getElem?_concat_length] at at'
          cases at'
          exact shown row
        refine ⟨⟨e, inside k ne ▸ at', row⟩, fun m e' past at'' => ?_⟩
        refine hidden m e' past ?_
        rw [inside m (Nat.ne_of_lt (List.getElem?_eq_some_iff.mp at'').1)]
        exact at''

theorem reaches_iff {last : Item} {k j : Nat} (fresh : ∀ k, last ≠ .row dataSource false k)
    (entries : List Entry) :
    lastDrawn f dataSource v last 0 (entries.take (j + 1)) = .row dataSource false k ↔
      Reaches f v entries k j := by
  rw [lastDrawn_eq_row fresh]
  constructor
  · rintro ⟨⟨entry, at', shown⟩, hidden⟩
    rw [List.getElem?_take] at at'
    split at at'
    · rename_i low
      refine ⟨Nat.le_of_lt_succ low, ⟨entry, at', shown⟩, fun m e past le here => ?_⟩
      refine hidden m e past ?_
      rw [List.getElem?_take_of_lt (Nat.lt_succ_of_le le)]
      exact here
    · cases at'
  · rintro ⟨le, ⟨entry, at', shown⟩, hidden⟩
    refine ⟨⟨entry, ?_, shown⟩, fun m e past here => ?_⟩
    · rw [List.getElem?_take_of_lt (Nat.lt_succ_of_le le)]
      exact at'
    · rw [List.getElem?_take] at here
      split at here
      · rename_i low
        exact hidden m e past (Nat.le_of_lt_succ low) here
      · cases here

theorem contentTop_cases (v : AggregatedVector) (d : Display) :
    contentTop u8FwdN f dataSource v d = d ∨ ∃ entry ∈ v.entries, entry.id = f.selfUniqueId ∧
      contentTop u8FwdN f dataSource v d =
        (contentSingleRow u8FwdN f dataSource v 0 0 true false entry d).draw
          (.separator dataSource) .separator := by
  unfold contentTop
  split
  · split
    · rename_i entry found
      exact .inr ⟨entry, List.mem_of_find?_eq_some found,
        by simpa using List.find?_some found, rfl⟩
    · exact .inl rfl
  · exact .inl rfl

theorem distinct_contentTop (details : HasDetails dataSource)
    (distinct : ((d.openWindows dataSource).map (·.id)).Nodup) :
    (((contentTop u8FwdN f dataSource v d).openWindows dataSource).map (·.id)).Nodup := by
  obtain same | ⟨entry, -, -, top⟩ := contentTop_cases v d
  · rw [same]
    exact distinct
  · rw [top]
    exact distinct_contentSingleRow details distinct

theorem last_contentTop (fresh : ∀ k, d.last ≠ .row dataSource false k) (k : Nat) :
    (contentTop u8FwdN f dataSource v d).last ≠ .row dataSource false k := by
  obtain same | ⟨entry, -, -, top⟩ := contentTop_cases v d
  · rw [same]
    exact fresh k
  · rw [top]
    rintro ⟨⟩

theorem opens_contentTop (details : HasDetails dataSource) {k : Nat}
    (distinct : ((d.openWindows dataSource).map (·.id)).Nodup)
    (clicked : f.clicked = some (.row dataSource false k)) :
    Opens ((contentTop u8FwdN f dataSource v d).openWindows dataSource) id =
      Opens (d.openWindows dataSource) id := by
  -- The row on top is another one than those of the list.
  obtain same | ⟨entry, -, self, top⟩ := contentTop_cases v d
  · rw [same]
  · rw [top]
    have elsewhere : f.clicked ≠ some (lastAfter f dataSource v true d.last 0 entry) := by
      rw [clicked, lastAfter, if_pos ⟨.inl rfl, .inr self⟩]
      rintro ⟨⟩
    refine Eq.trans ?_ (Bool.xor_false _)
    refine (congrArg (Opens · id) (openWindows_contentSingleRow details)).trans ?_
    have idle : decide (f.clicked = some (lastAfter f dataSource v true d.last 0 entry) ∧
        (f.options.anonymousMode = false ∨ entry.id = f.selfUniqueId)) = false :=
      decide_eq_false fun both => elsewhere both.1
    rw [opens_touch distinct, idle, Bool.and_false]

theorem content_eq (none : message f dataSource = none) :
    content u8FwdN f dataSource d =
      contentRows u8FwdN f dataSource (f.collection.getStats dataSource) 0
        (f.collection.getStats dataSource).entries
        (contentTop u8FwdN f dataSource (f.collection.getStats dataSource) d) := by
  unfold content
  rw [none]

theorem opens_contentRows_iff {k j : Nat} (details : HasDetails dataSource)
    (distinct : ((d.openWindows dataSource).map (·.id)).Nodup)
    (ids : (entries.map (·.id)).Nodup) (fresh : ∀ k, d.last ≠ .row dataSource false k)
    (clicked : f.clicked = some (.row dataSource false k)) (at' : entries[j]? = some entry) :
    Opens ((contentRows u8FwdN f dataSource v 0 entries d).openWindows dataSource) entry.id ≠
        Opens (d.openWindows dataSource) entry.id ↔
      Reaches f v entries k j ∧
        (f.options.anonymousMode = false ∨ entry.id = f.selfUniqueId) := by
  obtain ⟨bound, here⟩ := List.getElem?_eq_some_iff.mp at'
  have split : entries.take j ++ entry :: entries.drop (j + 1) = entries := by
    rw [← here, ← List.drop_eq_getElem_cons bound, List.take_append_drop]
  have first : entries.take j ++ [entry] = entries.take (j + 1) := by
    rw [← here, List.take_append_getElem bound]
  have rows : Opens ((contentRows u8FwdN f dataSource v 0
      (entries.take j ++ entry :: entries.drop (j + 1)) d).openWindows dataSource) entry.id = _ :=
    opens_contentRows details 0 distinct (split.symm ▸ ids)
  rw [split, first, clicked] at rows
  rw [rows, xor_ne_left, ← reaches_iff fresh entries, Option.some.injEq]
  exact and_congr_left fun _ => eq_comm

theorem opens_content {k j : Nat} (details : HasDetails dataSource)
    (listed : message f dataSource = none)
    (distinct : ((d.openWindows dataSource).map (·.id)).Nodup)
    (ids : ((f.collection.getStats dataSource).entries.map (·.id)).Nodup)
    (fresh : ∀ k, d.last ≠ .row dataSource false k)
    (clicked : f.clicked = some (.row dataSource false k))
    (at' : (f.collection.getStats dataSource).entries[j]? = some entry) :
    Opens ((content u8FwdN f dataSource d).openWindows dataSource) entry.id ≠
        Opens (d.openWindows dataSource) entry.id ↔
      Reaches f (f.collection.getStats dataSource)
          (f.collection.getStats dataSource).entries k j ∧
        (f.options.anonymousMode = false ∨ entry.id = f.selfUniqueId) := by
  rw [content_eq listed, ← opens_contentTop details distinct clicked]
  exact opens_contentRows_iff details (distinct_contentTop details distinct) ids
    (last_contentTop fresh) clicked at'

/-- The entries that there are rows for, with nothing for a line between rows. -/
def lines (xs : List Drawn) : List (Option UInt64) := xs.filterMap fun
  | .row id _ => some (some id)
  | .separator => some none
  | _ => none

def rowIds (xs : List Drawn) : List UInt64 := (lines xs).reduceOption

theorem lines_separator (d : Display) (item : Item) :
    lines (d.draw item .separator).drawn = lines d.drawn ++ [none] :=
  List.filterMap_append

theorem lines_contentSingleRow :
    lines (contentSingleRow u8FwdN f dataSource v place index top anonymousMode entry d).drawn =
      lines d.drawn ++ if IsShown f v top entry then [some entry.id] else [] := by
  rw [drawn_contentSingleRow, lines, List.filterMap_append]
  congr 1
  split <;> rfl

theorem lines_contentRows (i : Nat) (entries : List Entry) (d : Display) :
    lines (contentRows u8FwdN f dataSource v i entries d).drawn =
      lines d.drawn ++
        (entries.filter fun entry => IsShown f v false entry).map (some ·.id) := by
  induction entries generalizing i d with
  | nil => exact (List.append_nil _).symm
  | cons entry rest ih =>
    refine (ih (i + 1) _).trans ?_
    rw [lines_contentSingleRow, List.append_assoc, List.filter_cons]
    congr 1
    by_cases shown : IsShown f v false entry
    · rw [if_pos shown, if_pos (decide_eq_true shown)]
      rfl
    · rw [if_neg shown, if_neg (by simpa using shown)]
      rfl

theorem lines_contentTop (d : Display) :
    lines (contentTop u8FwdN f dataSource v d).drawn =
      lines d.drawn ++
        if (f.options.selfOnTop = true ∧ 1 < v.entries.length) ∧
          f.selfUniqueId ∈ v.entries.map (·.id) then [some f.selfUniqueId, none] else [] := by
  unfold contentTop
  by_cases top : f.options.selfOnTop = true ∧ 1 < v.entries.length
  · rw [if_pos top]
    split
    · rename_i entry found
      have self : entry.id = f.selfUniqueId := by simpa using List.find?_some found
      have here : f.selfUniqueId ∈ v.entries.map (·.id) :=
        self ▸ List.mem_map_of_mem (List.mem_of_find?_eq_some found)
      rw [if_pos ⟨top, here⟩, lines_separator, lines_contentSingleRow,
        if_pos ⟨.inl rfl, .inr self⟩, self, List.append_assoc]
      rfl
    · rename_i absent
      rw [if_neg, List.append_nil]
      rintro ⟨-, here⟩
      obtain ⟨entry, mem, self⟩ := List.mem_map.mp here
      exact absurd (decide_eq_true self) (List.find?_eq_none.mp absent entry mem)
  · rw [if_neg top, if_neg fun both => top both.1, List.append_nil]

def inList (f : Frame) (v : AggregatedVector) (entry : Entry) : Bool :=
  if entry.id = f.selfUniqueId then !f.options.hideSelfFromList || decide (v.entries.length = 1)
  else !f.options.selfOnly

theorem isShown_eq : decide (IsShown f v false entry) = inList f v entry := by
  unfold IsShown inList
  by_cases self : entry.id = f.selfUniqueId
  · simp [self]
  · simp [self]

def Counts (d d' : Display) : Prop :=
  d'.currentFrameLineCount + (rowIds d.drawn).length =
    d.currentFrameLineCount + (rowIds d'.drawn).length

theorem Counts.trans {d₁ d₂ d₃ : Display} (first : Counts d₁ d₂) (second : Counts d₂ d₃) :
    Counts d₁ d₃ := by
  unfold Counts at *
  omega

theorem counts_contentSingleRow :
    Counts d (contentSingleRow u8FwdN f dataSource v place index top anonymousMode entry d) := by
  have same : ∀ d, (touchDetails f dataSource entry d).currentFrameLineCount =
      d.currentFrameLineCount := by
    intro d
    unfold touchDetails
    split <;> rfl
  unfold Counts rowIds
  rw [lines_contentSingleRow, List.reduceOption_append, List.length_append]
  unfold contentSingleRow drawRow
  rw [same]
  split
  · exact Nat.add_right_comm _ 1 _
  · rfl

theorem counts_contentRows (i : Nat) (entries : List Entry) (d : Display) :
    Counts d (contentRows u8FwdN f dataSource v i entries d) := by
  induction entries generalizing i d with
  | nil => rfl
  | cons entry rest ih => exact counts_contentSingleRow.trans (ih (i + 1) _)

theorem counts_contentTop (d : Display) : Counts d (contentTop u8FwdN f dataSource v d) := by
  obtain same | ⟨entry, -, -, top⟩ := contentTop_cases v d
  · rw [same]
    rfl
  · rw [top]
    have row : Counts d (contentSingleRow u8FwdN f dataSource v 0 0 true false entry d) :=
      counts_contentSingleRow
    refine row.trans ?_
    unfold Counts rowIds
    rw [lines_separator, List.reduceOption_append]
    exact congrArg _ (congrArg List.length (List.append_nil _).symm)

def someEntry (id healing : UInt64) : Entry :=
  ⟨⟨1000, healing, 1, none, 0⟩, id, ⟨0, [], [], 1, false, true, 1, 0⟩⟩

def hidingSelf (healing : UInt64) (clicked : Option Item) : Frame where
  options := { hideSelfFromList := true }
  collection :=
    { getTotal _ := ⟨1000, healing, 3, none, 0⟩
      getStats _ := ⟨[someEntry 1 0, someEntry 2 healing, someEntry 3 0], healing⟩
      getDetails _ _ := {} }
  selfUniqueId := 2
  evtcRpcEnabled := false
  connected := false
  endpoint := []
  clicked
  closed _ _ := false

def onFirstRow : Option Item := some (.row DataSource.agents false 0)

/-- The rows in their order: self and a line on top, as the settings say, and then
the list, without self or without the others. There is one more line for each,
and the window is high enough for all of them up to its greatest height. -/
theorem rows_shown (listed : message f dataSource = none) :
    let v := f.collection.getStats dataSource
    let d' := content u8FwdN f dataSource d
    lines d'.drawn = lines d.drawn ++
        ((if (f.options.selfOnTop = true ∧ 1 < v.entries.length) ∧
            f.selfUniqueId ∈ v.entries.map (·.id) then [some f.selfUniqueId, none] else []) ++
          (v.entries.filter (inList f v)).map (some ·.id)) ∧
      d'.currentFrameLineCount + (rowIds d.drawn).length =
        d.currentFrameLineCount + (rowIds d'.drawn).length ∧
      (d'.currentFrameLineCount ≤ lineCount f d' ↔
        d'.currentFrameLineCount ≤ f.options.maxLinesDisplayed.toNat) := by
  intro v d'
  have drawn : d' = contentRows u8FwdN f dataSource v 0 v.entries
      (contentTop u8FwdN f dataSource v d) := content_eq listed
  refine ⟨?_, ?_, ?_⟩
  · rw [drawn, lines_contentRows, lines_contentTop, List.append_assoc,
      List.filter_congr fun _ _ => isShown_eq]
  · rw [drawn]
    exact (counts_contentTop d).trans (counts_contentRows 0 _ _)
  · unfold lineCount
    omega

theorem rows_shown_hidden :
    let f := { hidingSelf 10 none with options := { hideSelfFromList := true, selfOnTop := true } }
    let d := content u8FwdChars f DataSource.agents { openWindows := fun _ => [] }
    lines d.drawn = [some 2, none, some 1, some 3] ∧ d.currentFrameLineCount = 3 := by
  intro f d
  have listed : message f DataSource.agents = none := rfl
  have drawn : lines d.drawn = [some 2, none, some 1, some 3] := (rows_shown listed).1
  have counted : d.currentFrameLineCount + 0 = 0 + (rowIds d.drawn).length :=
    (rows_shown listed).2.1
  have rows : (rowIds d.drawn).length = 3 := congrArg (·.reduceOption.length) drawn
  exact ⟨drawn, counted.trans (congrArg (0 + ·) rows)⟩

theorem openWindows_content_of_ne (ne : other ≠ dataSource) :
    (content u8FwdN f dataSource d).openWindows other = d.openWindows other := by
  unfold content
  split
  · rfl
  · refine (openWindows_contentRows_of_ne ne 0 _ _).trans ?_
    obtain same | ⟨entry, -, -, top⟩ := contentTop_cases (f.collection.getStats dataSource) d
    · rw [same]
    · rw [top]
      exact openWindows_contentSingleRow_of_ne ne

theorem message_eq {text : Drawn} (told : message f dataSource = some text) :
    ∃ endpoint, text = .message endpoint := by
  unfold message at told
  split at told
  · split at told
    · exact ⟨_, (Option.some.inj told).symm⟩
    · split at told
      · exact ⟨_, (Option.some.inj told).symm⟩
      · cases told
  · cases told

theorem contents_induction {P : Display → Prop}
    (row : ∀ {dataSource v place index top anonymousMode entry d}, P d →
      P (contentSingleRow u8FwdN f dataSource v place index top anonymousMode entry d))
    (draw : ∀ {d item x}, (∀ id r, x ≠ .row id r) →
      (∀ s id n m es h, x ≠ .details s id n m es h) → P d → P (d.draw item x))
    (lines : ∀ {d n}, P d → P { d with currentFrameLineCount := n }) (start : P d) :
    P (contents u8FwdN f d) := by
  have rows : ∀ {s : Enumeration} {v i entries d}, P d →
      P (contentRows u8FwdN f s v i entries d) := by
    intro s v i entries d holds
    induction entries generalizing i d with
    | nil => exact holds
    | cons entry rest ih => exact ih (row holds)
  have top : ∀ {s : Enumeration} {v d}, P d → P (contentTop u8FwdN f s v d) := by
    intro s v d holds
    obtain same | ⟨entry, -, -, top⟩ := contentTop_cases v d
    · rw [same]
      exact holds
    · rw [top]
      exact draw (by rintro _ _ ⟨⟩) (by rintro _ _ _ _ _ _ ⟨⟩) (row holds)
  have list : ∀ {s : Enumeration} {d}, P d → P (content u8FwdN f s d) := by
    intro s d holds
    unfold content
    split
    · rename_i text told
      obtain ⟨endpoint, rfl⟩ := message_eq told
      exact lines (draw (by rintro _ _ ⟨⟩) (by rintro _ _ _ _ _ _ ⟨⟩) holds)
    · exact rows (top holds)
  have titled : ∀ {s : Enumeration} {d}, P d → P (titledContent u8FwdN f s d) := fun holds =>
    list (draw (by rintro _ _ ⟨⟩) (by rintro _ _ _ _ _ _ ⟨⟩) holds)
  unfold contents
  split
  · exact list start
  · exact titled (titled (titled (lines start)))

end Rows

section Windows

variable {u8FwdN : U8FwdN} {f : Frame} {dataSource : Enumeration} {d : Display}
  {openWindows : Enumeration → List DetailsWindowState} {id : UInt64}

def Lists (f : Frame) (dataSource : Enumeration) : Prop :=
  dataSource = f.options.dataSourceChoice ∨
    f.options.dataSourceChoice = DataSource.combined ∧
      (dataSource = DataSource.agents ∨ dataSource = DataSource.skills)

variable (u8FwdN openWindows) in
theorem contents_listed (details : HasDetails dataSource) (lists : Lists f dataSource) :
    ∃ d : Display, d.openWindows dataSource = openWindows dataSource ∧
      (∀ k, d.last ≠ .row dataSource false k) ∧
      (contents u8FwdN f { openWindows }).openWindows dataSource =
        (content u8FwdN f dataSource d).openWindows dataSource := by
  unfold contents
  split
  · rename_i single
    obtain rfl | ⟨combined, -⟩ := lists
    · exact ⟨_, rfl, by rintro k ⟨⟩, rfl⟩
    · exact absurd combined single
  · rename_i combined
    rw [not_not] at combined
    obtain rfl | ⟨-, rfl | rfl⟩ := lists
    · rw [combined] at details
      exact absurd details (by decide)
    · refine ⟨_, ?_, ?_, openWindows_content_of_ne (by decide)⟩
      · exact openWindows_content_of_ne (by decide)
      · rintro k ⟨⟩
    · refine ⟨_, ?_, ?_, rfl⟩
      · refine (openWindows_content_of_ne (by decide)).trans ?_
        exact openWindows_content_of_ne (by decide)
      · rintro k ⟨⟩

theorem openWindows_detailsWindows (d : Display) :
    (detailsWindows f dataSource d).openWindows dataSource =
      ((d.openWindows dataSource).filter (·.isOpen)).map
        fun state => { state with isOpen := !f.closed dataSource state.id } :=
  Function.update_self _ _ _

theorem openWindows_detailsWindows_of_ne {other : Enumeration} (ne : other ≠ dataSource)
    (d : Display) : (detailsWindows f dataSource d).openWindows other = d.openWindows other :=
  Function.update_of_ne ne _ _

theorem openWindows_displayWindow (details : HasDetails dataSource) :
    (displayWindow u8FwdN f openWindows).openWindows dataSource =
      (((contents u8FwdN f { openWindows }).openWindows dataSource).filter (·.isOpen)).map
        fun state => { state with isOpen := !f.closed dataSource state.id } := by
  unfold displayWindow
  obtain rfl | rfl | rfl := details
  · rw [openWindows_detailsWindows_of_ne (by decide), openWindows_detailsWindows_of_ne (by decide),
      openWindows_detailsWindows]
  · rw [openWindows_detailsWindows_of_ne (by decide), openWindows_detailsWindows,
      openWindows_detailsWindows_of_ne (by decide)]
  · rw [openWindows_detailsWindows, openWindows_detailsWindows_of_ne (by decide),
      openWindows_detailsWindows_of_ne (by decide)]

theorem opens_kept (closed : UInt64 → Bool) (l : List DetailsWindowState) :
    Opens ((l.filter (·.isOpen)).map fun state => { state with isOpen := !closed state.id }) id =
      (Opens l id && !closed id) := by
  induction l with
  | nil => rfl
  | cons state rest ih =>
    unfold Opens at ih ⊢
    by_cases here : state.id = id
    · cases isOpen : state.isOpen with
      | false => simp [isOpen, ih]
      | true =>
        cases shut : closed id with
        | false => simp [isOpen, here, shut]
        | true => simp [isOpen, here, shut, ih]
    · cases isOpen : state.isOpen with
      | false => simp [isOpen, here, ih]
      | true => simp [isOpen, here, ih]

theorem after_snoc (fs : List Frame) (f : Frame) :
    after u8FwdN (fs ++ [f]) openWindows =
      (displayWindow u8FwdN f (after u8FwdN fs openWindows)).openWindows := by
  unfold after
  rw [List.foldl_append]
  rfl

theorem distinct_contents (details : HasDetails dataSource)
    (distinct : ((d.openWindows dataSource).map (·.id)).Nodup) :
    (((contents u8FwdN f d).openWindows dataSource).map (·.id)).Nodup := by
  refine contents_induction (P := fun d => ((d.openWindows dataSource).map (·.id)).Nodup)
    (fun {s _ _ _ _ _ _ _} holds => ?_) (fun _ _ => id) id distinct
  by_cases same : dataSource = s
  · subst same
    exact distinct_contentSingleRow details holds
  · rw [openWindows_contentSingleRow_of_ne same]
    exact holds

theorem distinct_after (details : HasDetails dataSource) (fs : List Frame) :
    (((after u8FwdN fs fun _ => []) dataSource).map (·.id)).Nodup := by
  induction fs using List.reverseRecOn with
  | nil => exact List.nodup_nil
  | append_singleton fs f ih =>
    have shown : (((contents u8FwdN f { openWindows := after u8FwdN fs fun _ => [] }).openWindows
        dataSource).map (·.id)).Nodup := distinct_contents details ih
    rw [after_snoc, openWindows_displayWindow details, List.map_map]
    exact shown.sublist (List.filter_sublist.map _)

/-- A details window of an entry in the list has the numbers of this frame,
whether there is a row or not. -/
theorem details_current {fs : List Frame} {state : DetailsWindowState} {entry : Entry}
    (details : HasDetails dataSource) (lists : Lists f dataSource)
    (listed : message f dataSource = none)
    (ids : ((f.collection.getStats dataSource).entries.map (·.id)).Nodup)
    (here : entry ∈ (f.collection.getStats dataSource).entries)
    (mem : state ∈ after u8FwdN (fs ++ [f]) (fun _ => []) dataSource)
    (same : state.id = entry.id) : state.toEntry = entry := by
  obtain ⟨d, before, -, shown⟩ :=
    contents_listed u8FwdN (after u8FwdN fs fun _ => []) details lists
  rw [after_snoc, openWindows_displayWindow details, shown, content_eq listed] at mem
  obtain ⟨old, kept, rfl⟩ := List.mem_map.mp mem
  have distinct : (((contentTop u8FwdN f dataSource (f.collection.getStats dataSource)
      d).openWindows dataSource).map (·.id)).Nodup :=
    distinct_contentTop details (before ▸ distinct_after details fs)
  obtain updated | ⟨-, missing⟩ := mem_contentRows details 0 distinct (List.mem_of_mem_filter kept)
  · exact List.inj_on_of_nodup_map ids updated here same
  · exact absurd (same ▸ List.mem_map_of_mem here) missing

theorem details_current_hidden :
    ∃ state ∈ after u8FwdChars ([hidingSelf 10 onFirstRow] ++ [hidingSelf 20 none])
        (fun _ => []) DataSource.agents, state.id = 2 ∧ state.toEntry = someEntry 2 20 := by
  obtain ⟨state, mem, same⟩ : ∃ state ∈ after u8FwdChars
      ([hidingSelf 10 onFirstRow] ++ [hidingSelf 20 none]) (fun _ => []) DataSource.agents,
      state.id = 2 := by decide
  exact ⟨state, mem, same, details_current (f := hidingSelf 20 none) (.inl rfl) (.inl rfl) rfl
    (by decide) (by decide) mem same⟩

end Windows

end ArcdpsHealing.Gui.Content
