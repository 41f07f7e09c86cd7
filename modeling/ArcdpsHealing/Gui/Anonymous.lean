import ArcdpsHealing.Gui.DetailsWindows

namespace ArcdpsHealing.Gui.Content

open Arcdps Lib Settings Processor

structure Entry.Alike (own : UInt64 → Prop) (e e' : Entry) : Prop where
  id : e.id = e'.id
  numbers : e.toNumbers = e'.toNumbers
  agent : own e.id → e.agent = e'.agent

structure AggregatedVector.Alike (own : UInt64 → Prop) (v v' : AggregatedVector) : Prop where
  entries : List.Forall₂ (Entry.Alike own) v.entries v'.entries
  highestHealing : v.highestHealing = v'.highestHealing

structure Collection.Alike (own : UInt64 → Prop) (c c' : Collection) : Prop where
  getTotal : c.getTotal = c'.getTotal
  getStats : ∀ dataSource, (c.getStats dataSource).Alike own (c'.getStats dataSource)
  getDetails : ∀ dataSource id, own id → c.getDetails dataSource id = c'.getDetails dataSource id

/-- Frames of a window in anonymous mode, with the same settings and inputs. -/
inductive Frame.Alike (own : UInt64 → Prop) : Frame → Frame → Prop
  | mk {f : Frame} {c : Collection} (alike : f.collection.Alike own c)
      (self : own f.selfUniqueId) (anonymous : f.options.anonymousMode = true) :
      Frame.Alike own f { f with collection := c }

structure DetailsWindowState.Alike (own : UInt64 → Prop) (s s' : DetailsWindowState) : Prop where
  entry : s.toEntry.Alike own s'.toEntry
  isOpen : s.isOpen = s'.isOpen
  own : own s.id

structure Display.Alike (own : UInt64 → Prop) (d d' : Display) : Prop where
  openWindows : ∀ dataSource, List.Forall₂ (DetailsWindowState.Alike own)
    (d.openWindows dataSource) (d'.openWindows dataSource)
  drawn : d.drawn = d'.drawn
  last : d.last = d'.last
  currentFrameLineCount : d.currentFrameLineCount = d'.currentFrameLineCount

variable {own : UInt64 → Prop} {u8FwdN : U8FwdN} {f f' : Frame} {dataSource : Enumeration}
  {v v' : AggregatedVector} {d d' : Display} {e e' : Entry}

theorem touch_alike {clicked : Bool} {l l' : List DetailsWindowState} (alike : e.Alike own e')
    (l_alike : List.Forall₂ (DetailsWindowState.Alike own) l l')
    (allowed : clicked = true → own e.id) :
    List.Forall₂ (DetailsWindowState.Alike own) (touch e clicked l) (touch e' clicked l') := by
  induction l_alike with
  | nil =>
    cases clicked with
    | false => exact .nil
    | true => exact .cons ⟨alike, rfl, allowed rfl⟩ .nil
  | @cons s s' rest rest' same others ih =>
    unfold touch
    have ids : s.id = e.id ↔ s'.id = e'.id := by rw [same.entry.id, alike.id]
    by_cases here : s.id = e.id
    · rw [if_pos here, if_pos (ids.mp here), same.isOpen]
      exact .cons ⟨alike, rfl, here ▸ same.own⟩ others
    · rw [if_neg here, if_neg (mt ids.mpr here)]
      exact .cons same ih

theorem find?_alike {es es' : List Entry} (entries : List.Forall₂ (Entry.Alike own) es es')
    (id : UInt64) : Option.Rel (Entry.Alike own) (es.find? fun e => e.id = id)
      (es'.find? fun e => e.id = id) := by
  induction entries with
  | nil => exact .none
  | @cons e e' rest rest' first _ ih =>
    by_cases here : e.id = id
    · rw [List.find?_cons_of_pos (by simpa using here),
        List.find?_cons_of_pos (by simpa [← first.id] using here)]
      exact .some first
    · rw [List.find?_cons_of_neg (by simpa using here),
        List.find?_cons_of_neg (by simpa [← first.id] using here)]
      exact ih

theorem filter_alike {l l' : List DetailsWindowState}
    (alike : List.Forall₂ (DetailsWindowState.Alike own) l l') :
    List.Forall₂ (DetailsWindowState.Alike own) (l.filter (·.isOpen)) (l'.filter (·.isOpen)) := by
  induction alike with
  | nil => exact .nil
  | cons same _ ih =>
    rw [List.filter_cons, List.filter_cons, ← same.isOpen]
    split
    · exact .cons same ih
    · exact ih

namespace Frame.Alike

variable (frames : Frame.Alike own f f')

include frames

theorem options : f.options = f'.options := by
  cases frames
  rfl

theorem selfUniqueId : f.selfUniqueId = f'.selfUniqueId := by
  cases frames
  rfl

theorem makeRow {index : Nat} {top anonymousMode : Bool} (vectors : v.Alike own v')
    (alike : e.Alike own e') (hidden : anonymousMode = true ∨ own e.id) :
    makeRow u8FwdN f dataSource v index top anonymousMode e =
      makeRow u8FwdN f' dataSource v' index top anonymousMode e' := by
  cases frames with | mk collections self anonymous =>
  have agents : (if anonymousMode = true ∧ e.id ≠ f.selfUniqueId then anonymousAgent
      else e.agent) =
      if anonymousMode = true ∧ e'.id ≠ f.selfUniqueId then anonymousAgent else e'.agent := by
    rw [← alike.id]
    split
    · rfl
    · rename_i shown
      apply alike.agent
      obtain anonymous | mine := hidden
      · rw [not_and, not_not] at shown
        exact shown anonymous ▸ self
      · exact mine
  unfold Content.makeRow
  rw [← agents, ← collections.getTotal, ← vectors.highestHealing, ← alike.numbers, ← alike.id]
  rfl

end Frame.Alike

namespace Display.Alike

theorem draw (alike : d.Alike own d') (item : Item) (x : Drawn) (count : Nat) :
    Display.Alike own
      { d.draw item x with currentFrameLineCount := d.currentFrameLineCount + count }
      { d'.draw item x with currentFrameLineCount := d'.currentFrameLineCount + count } where
  openWindows := alike.openWindows
  drawn := congrArg (· ++ [x]) alike.drawn
  last := rfl
  currentFrameLineCount := congrArg (· + count) alike.currentFrameLineCount

variable (frames : Frame.Alike own f f')

include frames

theorem drawRow (alike : d.Alike own d') (vectors : v.Alike own v') (entries : e.Alike own e')
    {top anonymousMode : Bool} (hidden : anonymousMode = true ∨ own e.id) (place index : Nat) :
    Display.Alike own (drawRow u8FwdN f dataSource v place index top anonymousMode e d)
      (drawRow u8FwdN f' dataSource v' place index top anonymousMode e' d') := by
  have shown : IsShown f v top e ↔ IsShown f' v' top e' := by
    unfold IsShown
    rw [entries.id, vectors.entries.length_eq, frames.options, frames.selfUniqueId]
  unfold Content.drawRow
  by_cases here : IsShown f v top e
  · rw [if_pos here, if_pos (shown.mp here), ← entries.id,
      frames.makeRow vectors entries hidden]
    exact alike.draw _ _ 1
  · rw [if_neg here, if_neg (mt shown.mpr here)]
    exact alike

theorem touchDetails (alike : d.Alike own d') (entries : e.Alike own e') :
    Display.Alike own (touchDetails f dataSource e d) (touchDetails f' dataSource e' d') := by
  cases frames with | @mk c collections self anonymous =>
  have clicks : Clicked f d e ↔ Clicked { f with collection := c } d' e' := by
    unfold Clicked
    rw [entries.id, alike.last]
  have allowed : decide (Clicked f d e) = true → own e.id := by
    intro clicked
    obtain ⟨-, off | mine⟩ := of_decide_eq_true clicked
    · rw [anonymous] at off
      cases off
    · exact mine ▸ self
  unfold Content.touchDetails
  by_cases details : HasDetails dataSource
  · rw [if_pos details, if_pos details]
    refine ⟨fun other => ?_, alike.drawn, alike.last, alike.currentFrameLineCount⟩
    by_cases same : other = dataSource
    · subst same
      dsimp only
      rw [Function.update_self, Function.update_self, ← decide_eq_decide.mpr clicks]
      exact touch_alike entries (alike.openWindows other) allowed
    · dsimp only
      rw [Function.update_of_ne same, Function.update_of_ne same]
      exact alike.openWindows other
  · rw [if_neg details, if_neg details]
    exact alike

theorem contentSingleRow (alike : d.Alike own d') (vectors : v.Alike own v')
    (entries : e.Alike own e') {top anonymousMode : Bool} (hidden : anonymousMode = true ∨ own e.id)
    (place index : Nat) :
    Display.Alike own (contentSingleRow u8FwdN f dataSource v place index top anonymousMode e d)
      (contentSingleRow u8FwdN f' dataSource v' place index top anonymousMode e' d') :=
  (alike.drawRow frames vectors entries hidden place index).touchDetails frames entries

theorem contentRows (alike : d.Alike own d') (vectors : v.Alike own v') {es es' : List Entry}
    (entries : List.Forall₂ (Entry.Alike own) es es') (i : Nat) :
    Display.Alike own (contentRows u8FwdN f dataSource v i es d)
      (contentRows u8FwdN f' dataSource v' i es' d') := by
  have anonymous : f.options.anonymousMode = true := by
    cases frames
    assumption
  induction entries generalizing i d d' with
  | nil => exact alike
  | cons first _ ih =>
    unfold Content.contentRows
    rw [← frames.options]
    exact ih (alike.contentSingleRow frames vectors first (.inl anonymous) i (i + 1)) (i + 1)

theorem contentTop (alike : d.Alike own d') (vectors : v.Alike own v') :
    Display.Alike own (contentTop u8FwdN f dataSource v d)
      (contentTop u8FwdN f' dataSource v' d') := by
  have self : own f.selfUniqueId := by
    cases frames
    assumption
  unfold Content.contentTop
  rw [← frames.options, ← vectors.entries.length_eq, ← frames.selfUniqueId]
  split
  · have found := find?_alike vectors.entries f.selfUniqueId
    cases here : v.entries.find? fun e => e.id = f.selfUniqueId with
    | none =>
      rw [here] at found
      cases there : v'.entries.find? fun e => e.id = f.selfUniqueId with
      | none => exact alike
      | some e' =>
        rw [there] at found
        cases found
    | some e =>
      rw [here] at found
      cases there : v'.entries.find? fun e => e.id = f.selfUniqueId with
      | none =>
        rw [there] at found
        cases found
      | some e' =>
        rw [there] at found
        cases found with | some entries =>
        have mine : e.id = f.selfUniqueId := by simpa using List.find?_some here
        exact (alike.contentSingleRow frames vectors entries (.inr (mine ▸ self)) 0 0).draw _ _ 0
  · exact alike

theorem content (alike : d.Alike own d') :
    Display.Alike own (content u8FwdN f dataSource d) (content u8FwdN f' dataSource d') := by
  have same : message f dataSource = message f' dataSource := by
    cases frames
    rfl
  have vectors : (f.collection.getStats dataSource).Alike own
      (f'.collection.getStats dataSource) := by
    cases frames with | mk collections _ _ => exact collections.getStats dataSource
  unfold Content.content
  rw [← same]
  cases message f dataSource with
  | some text => exact alike.draw _ _ 3
  | none => exact (alike.contentTop frames vectors).contentRows frames vectors vectors.entries 0

theorem titledContent (alike : d.Alike own d') :
    Display.Alike own (titledContent u8FwdN f dataSource d)
      (titledContent u8FwdN f' dataSource d') :=
  Display.Alike.content frames (alike.draw _ _ 0)

theorem contents (alike : d.Alike own d') :
    Display.Alike own (contents u8FwdN f d) (contents u8FwdN f' d') := by
  unfold Content.contents
  rw [← frames.options]
  split
  · exact alike.content frames
  · have lines : Display.Alike own { d with currentFrameLineCount := d.currentFrameLineCount + 3 }
        { d' with currentFrameLineCount := d'.currentFrameLineCount + 3 } :=
      ⟨alike.openWindows, alike.drawn, alike.last, congrArg (· + 3) alike.currentFrameLineCount⟩
    exact ((lines.titledContent frames).titledContent frames).titledContent frames

theorem detailsWindow {state state' : DetailsWindowState} (alike : state.Alike own state') :
    detailsWindow f dataSource state = detailsWindow f' dataSource state' := by
  cases frames with | mk collections _ _ =>
  unfold Content.detailsWindow
  rw [← collections.getDetails dataSource state'.id (alike.entry.id ▸ alike.own),
    ← alike.entry.id, ← alike.entry.numbers, ← alike.entry.agent alike.own]

theorem map_detailsWindow {l l' : List DetailsWindowState}
    (alike : List.Forall₂ (DetailsWindowState.Alike own) l l') :
    l.map (Content.detailsWindow f dataSource) = l'.map (Content.detailsWindow f' dataSource) := by
  induction alike with
  | nil => rfl
  | cons both _ ih => rw [List.map_cons, List.map_cons, ih, detailsWindow frames both]

theorem detailsWindows (alike : d.Alike own d') :
    Display.Alike own (detailsWindows f dataSource d) (detailsWindows f' dataSource d') := by
  have closed : f'.closed = f.closed := by
    cases frames
    rfl
  have kept := filter_alike (alike.openWindows dataSource)
  unfold Content.detailsWindows
  refine ⟨fun other => ?_, ?_, alike.last, alike.currentFrameLineCount⟩
  · by_cases same : other = dataSource
    · subst same
      dsimp only
      rw [Function.update_self, Function.update_self, List.forall₂_map_left_iff,
        List.forall₂_map_right_iff, closed]
      exact kept.imp fun state state' both =>
        ⟨both.entry, congrArg (!f.closed other ·) both.entry.id, both.own⟩
    · dsimp only
      rw [Function.update_of_ne same, Function.update_of_ne same]
      exact alike.openWindows other
  · dsimp only
    rw [alike.drawn]
    exact congrArg _ (map_detailsWindow frames kept)

variable (u8FwdN) in
theorem displayWindow {openWindows openWindows' : Enumeration → List DetailsWindowState}
    (alike : ∀ dataSource, List.Forall₂ (DetailsWindowState.Alike own) (openWindows dataSource)
      (openWindows' dataSource)) :
    Display.Alike own (displayWindow u8FwdN f openWindows)
      (displayWindow u8FwdN f' openWindows') := by
  have first : Display.Alike own { openWindows } { openWindows := openWindows' } :=
    ⟨alike, rfl, rfl, rfl⟩
  exact (((first.contents frames).detailsWindows frames).detailsWindows frames).detailsWindows
    frames

end Display.Alike

/-- In anonymous mode nothing that is drawn, in any of the frames, depends on who
the strangers are, if none of their details windows is open from before. `own`
are the ids that self has had. -/
theorem anonymous_shows {fs fs' : List Frame} (frames : List.Forall₂ (Frame.Alike own) fs fs') :
    shows u8FwdN fs (fun _ => []) = shows u8FwdN fs' fun _ => [] := by
  suffices general : ∀ openWindows openWindows' : Enumeration → List DetailsWindowState,
      (∀ dataSource, List.Forall₂ (DetailsWindowState.Alike own) (openWindows dataSource)
        (openWindows' dataSource)) →
      shows u8FwdN fs openWindows = shows u8FwdN fs' openWindows' from
    general _ _ fun _ => .nil
  intro openWindows openWindows' alike
  induction frames generalizing openWindows openWindows' with
  | nil => rfl
  | cons first _ ih =>
    have displays := Display.Alike.displayWindow u8FwdN first alike
    unfold shows
    rw [displays.drawn, ih _ _ displays.openWindows]

def party (anonymousMode : Bool) (name : CString) (clicked : Option Item) : Frame where
  options := { anonymousMode }
  collection :=
    { getTotal _ := ⟨1000, 20, 2, none, 0⟩
      getStats _ := ⟨[⟨⟨1000, 15, 1, none, 0⟩, 1, ⟨5, name, name, 1, false, true, 1, 0⟩⟩,
        someEntry 2 5], 15⟩
      getDetails _ _ := {} }
  selfUniqueId := 2
  evtcRpcEnabled := false
  connected := false
  endpoint := []
  clicked
  closed _ _ := false

theorem anonymous_shows_party :
    shows u8FwdChars [party true [65] onFirstRow, party true [65] none] (fun _ => []) =
      shows u8FwdChars [party true [66] onFirstRow, party true [66] none] fun _ => [] := by
  have alike : ∀ clicked, Frame.Alike (· = 2) (party true [65] clicked)
      (party true [66] clicked) := by
    intro clicked
    refine Frame.Alike.mk (f := party true [65] clicked) ⟨rfl, fun _ => ⟨?_, rfl⟩,
      fun _ _ _ => rfl⟩ rfl rfl
    exact .cons ⟨rfl, rfl, fun own => absurd own (by decide)⟩ (.cons ⟨rfl, rfl, fun _ => rfl⟩ .nil)
  exact anonymous_shows (.cons (alike _) (.cons (alike _) .nil))

section Strangers

variable {stranger : UInt64} {openWindows : Enumeration → List DetailsWindowState}

theorem opens_contents (details : HasDetails dataSource)
    (anonymous : f.options.anonymousMode = true) (other : stranger ≠ f.selfUniqueId)
    (distinct : ((openWindows dataSource).map (·.id)).Nodup) :
    Opens ((contents u8FwdN f { openWindows }).openWindows dataSource) stranger =
      Opens (openWindows dataSource) stranger := by
  suffices both : (((contents u8FwdN f { openWindows }).openWindows dataSource).map (·.id)).Nodup ∧
      Opens ((contents u8FwdN f { openWindows }).openWindows dataSource) stranger =
        Opens (openWindows dataSource) stranger from both.2
  refine contents_induction (d := { openWindows })
    (P := fun d => ((d.openWindows dataSource).map (·.id)).Nodup ∧
      Opens (d.openWindows dataSource) stranger = Opens (openWindows dataSource) stranger)
    ?_ (fun _ _ => id) id ⟨distinct, rfl⟩
  rintro s v place index top anonymousMode entry d ⟨unique, same⟩
  by_cases here : dataSource = s
  · subst here
    refine ⟨distinct_contentSingleRow details unique, ?_⟩
    rw [openWindows_contentSingleRow details, opens_touch unique, same]
    by_cases again : entry.id = stranger
    · have idle : ¬ (f.clicked = some (lastAfter f dataSource v top d.last place entry) ∧
          (f.options.anonymousMode = false ∨ entry.id = f.selfUniqueId)) := by
        rintro ⟨-, off | mine⟩
        · rw [anonymous] at off
          cases off
        · exact other (again.symm.trans mine)
      rw [decide_eq_false idle, Bool.and_false, Bool.xor_false]
    · rw [decide_eq_false again, Bool.false_and, Bool.xor_false]
  · rw [openWindows_contentSingleRow_of_ne here]
    exact ⟨unique, same⟩

def ShowsDetails (xs : List Drawn) (dataSource : Enumeration) (id : UInt64) : Prop :=
  ∃ name numbers entries highestHealing,
    .details dataSource id name numbers entries highestHealing ∈ xs

theorem not_showsDetails_contents {id : UInt64} :
    ¬ ShowsDetails (contents u8FwdN f { openWindows }).drawn dataSource id := by
  refine contents_induction (d := { openWindows })
    (P := fun d => ¬ ShowsDetails d.drawn dataSource id) ?_ ?_ (fun absent => absent) ?_
  · rintro s v place index top anonymousMode entry d absent ⟨name, numbers, entries, highest, mem⟩
    rw [drawn_contentSingleRow] at mem
    obtain before | row := List.mem_append.mp mem
    · exact absent ⟨name, numbers, entries, highest, before⟩
    · split at row
      · cases List.mem_singleton.mp row
      · cases row
  · rintro d item x - details absent ⟨name, numbers, entries, highest, mem⟩
    obtain before | new := List.mem_append.mp mem
    · exact absent ⟨name, numbers, entries, highest, before⟩
    · exact details _ _ _ _ _ _ (List.mem_singleton.mp new).symm
  · rintro ⟨_, _, _, _, ⟨⟩⟩

theorem showsDetails_map_iff {l : List DetailsWindowState} {id : UInt64} :
    ShowsDetails ((l.filter (·.isOpen)).map (detailsWindow f dataSource)) dataSource id ↔
      Opens l id = true := by
  rw [Opens, List.any_eq_true]
  constructor
  · rintro ⟨name, numbers, entries, highestHealing, mem⟩
    obtain ⟨state, kept, same⟩ := List.mem_map.mp mem
    obtain ⟨here, isOpen⟩ := List.mem_filter.mp kept
    cases same
    exact ⟨state, here, by simpa using isOpen⟩
  · rintro ⟨state, here, both⟩
    rw [Bool.and_eq_true, decide_eq_true_iff] at both
    obtain ⟨rfl, isOpen⟩ := both
    exact ⟨_, _, _, _, List.mem_map_of_mem (List.mem_filter.mpr ⟨here, isOpen⟩)⟩

theorem showsDetails_append_iff {xs ys : List Drawn} {id : UInt64} :
    ShowsDetails (xs ++ ys) dataSource id ↔
      ShowsDetails xs dataSource id ∨ ShowsDetails ys dataSource id := by
  unfold ShowsDetails
  simp only [List.mem_append, exists_or]

theorem not_showsDetails_map {l : List DetailsWindowState} {other : Enumeration} {id : UInt64}
    (ne : dataSource ≠ other) :
    ¬ ShowsDetails (l.map (detailsWindow f other)) dataSource id := by
  rintro ⟨name, numbers, entries, highestHealing, mem⟩
  obtain ⟨state, -, same⟩ := List.mem_map.mp mem
  cases same
  exact ne rfl

theorem showsDetails_detailsWindows_of_ne {other : Enumeration} {id : UInt64}
    (ne : dataSource ≠ other) :
    ShowsDetails (detailsWindows f other d).drawn dataSource id ↔
      ShowsDetails d.drawn dataSource id :=
  showsDetails_append_iff.trans (or_iff_left (not_showsDetails_map ne))

theorem showsDetails_detailsWindows {id : UInt64} :
    ShowsDetails (detailsWindows f dataSource d).drawn dataSource id ↔
      ShowsDetails d.drawn dataSource id ∨ Opens (d.openWindows dataSource) id = true :=
  showsDetails_append_iff.trans (or_congr_right showsDetails_map_iff)

theorem showsDetails_displayWindow (details : HasDetails dataSource) {id : UInt64} :
    ShowsDetails (displayWindow u8FwdN f openWindows).drawn dataSource id ↔
      Opens ((contents u8FwdN f { openWindows }).openWindows dataSource) id = true := by
  unfold displayWindow
  obtain rfl | rfl | rfl := details
  · rw [showsDetails_detailsWindows_of_ne (by decide),
      showsDetails_detailsWindows_of_ne (by decide), showsDetails_detailsWindows,
      or_iff_right not_showsDetails_contents]
  · rw [showsDetails_detailsWindows_of_ne (by decide), showsDetails_detailsWindows,
      showsDetails_detailsWindows_of_ne (by decide), or_iff_right not_showsDetails_contents,
      openWindows_detailsWindows_of_ne (by decide)]
  · rw [showsDetails_detailsWindows, showsDetails_detailsWindows_of_ne (by decide),
      showsDetails_detailsWindows_of_ne (by decide), or_iff_right not_showsDetails_contents,
      openWindows_detailsWindows_of_ne (by decide), openWindows_detailsWindows_of_ne (by decide)]

theorem opens_after (details : HasDetails dataSource) {before fs : List Frame}
    (anonymous : ∀ g ∈ fs, g.options.anonymousMode = true)
    (other : ∀ g ∈ fs, stranger ≠ g.selfUniqueId) :
    Opens (after u8FwdN (before ++ fs) (fun _ => []) dataSource) stranger = true ↔
      Opens (after u8FwdN before (fun _ => []) dataSource) stranger = true ∧
        ∀ g ∈ fs, g.closed dataSource stranger = false := by
  induction fs using List.reverseRecOn with
  | nil => simp
  | append_singleton fs g ih =>
    rw [List.forall_mem_append, List.forall_mem_singleton] at anonymous other
    rw [← List.append_assoc, after_snoc, openWindows_displayWindow details, opens_kept,
      opens_contents details anonymous.2 other.2 (distinct_after details _), Bool.and_eq_true,
      ih anonymous.1 other.1, List.forall_mem_append, List.forall_mem_singleton, and_assoc,
      Bool.not_eq_true']

/-- A details window of a stranger is there in anonymous mode exactly if it was
open before and has not been closed since: it is neither opened nor closed from
the list. -/
theorem anonymous_keeps {before fs : List Frame} (details : HasDetails dataSource)
    (anonymous : ∀ g ∈ fs ++ [f], g.options.anonymousMode = true)
    (other : ∀ g ∈ fs ++ [f], stranger ≠ g.selfUniqueId) :
    ShowsDetails (displayWindow u8FwdN f (after u8FwdN (before ++ fs) fun _ => [])).drawn
        dataSource stranger ↔
      Opens (after u8FwdN before (fun _ => []) dataSource) stranger = true ∧
        ∀ g ∈ fs, g.closed dataSource stranger = false := by
  rw [List.forall_mem_append, List.forall_mem_singleton] at anonymous other
  rw [showsDetails_displayWindow details, opens_contents details anonymous.2 other.2
    (distinct_after details _)]
  exact opens_after details anonymous.1 other.1

theorem anonymous_keeps_party :
    ShowsDetails (displayWindow u8FwdChars (party true [65] none)
      (after u8FwdChars ([party false [65] onFirstRow] ++ [party true [65] onFirstRow])
        fun _ => [])).drawn DataSource.agents 1 :=
  (anonymous_keeps (.inl rfl) (by simp [party]) (by simp [party])).mpr ⟨by decide, by simp [party]⟩

end Strangers

end ArcdpsHealing.Gui.Content
