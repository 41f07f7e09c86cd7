import ArcdpsHealing.Gui.Utf8Substr
import ArcdpsHealing.Stats.Results

/-! What a window shows, and the windows with details that it opens. -/

namespace ArcdpsHealing.Gui.Content

open Arcdps Lib Settings Processor

structure Numbers where
  timeInCombat : UInt64
  healing : UInt64
  hits : UInt64
  casts : Option UInt64 := none
  barrierGeneration : UInt64
  deriving DecidableEq

structure Entry extends Numbers where
  id : UInt64
  agent : HealedAgent
  deriving DecidableEq

structure AggregatedVector where
  entries : List Entry := []
  highestHealing : UInt64 := 0

structure Collection where
  getTotal : Enumeration → Numbers
  getStats : Enumeration → AggregatedVector
  getDetails : Enumeration → UInt64 → AggregatedVector

def Collection.ofStats (c : Stats.AggregatedStatsCollection) (skills : Stats.SkillTable)
    (agents : Enumeration → UInt64 → HealedAgent) : Collection :=
  let vector (dataSource : Enumeration) (v : Stats.AggregatedVector) : AggregatedVector :=
    { entries := v.entries.map fun e =>
        { timeInCombat := e.timeInCombat
          healing := e.healing
          hits := e.hits
          barrierGeneration := e.barrierGeneration
          id := e.id
          agent := { agents dataSource e.id with name := e.name } }
      highestHealing := v.highestHealing }
  { getTotal dataSource :=
      let total := c.getTotal skills dataSource
      { timeInCombat := c.localState.getCombatTime
        healing := total.healing
        hits := total.hits
        barrierGeneration := total.barrierGeneration }
    getStats dataSource := vector dataSource (c.getStats skills dataSource)
    getDetails dataSource id := vector dataSource (c.getDetails skills dataSource id) }

theorem ids_ofStats (c : Stats.AggregatedStatsCollection) (skills : Stats.SkillTable)
    (agents : Enumeration → UInt64 → HealedAgent) (dataSource : Enumeration) :
    (((Collection.ofStats c skills agents).getStats dataSource).entries.map (·.id)) =
      (c.getStats skills dataSource).entries.map (·.id) :=
  List.map_map

theorem distinct_ofStats (c : Stats.AggregatedStatsCollection) (skills : Stats.SkillTable)
    (agents : Enumeration → UInt64 → HealedAgent) {dataSource : Enumeration}
    (players : dataSource = DataSource.agents ∨ dataSource = DataSource.peersOutgoing) :
    (((Collection.ofStats c skills agents).getStats dataSource).entries.map (·.id)).Nodup := by
  rw [ids_ofStats]
  obtain rfl | rfl := players
  · exact c.localState.nodup_getAgents none
  · rw [Stats.AggregatedStatsCollection.getStats_peersOutgoing,
      ((Stats.AggregatedStatsCollection.perm_peersOutgoing skills).map (·.id)).nodup_iff]
    have distinct := Std.ExtTreeMap.distinct_keys_toList (t := c.peerStates)
    rw [Stats.AggregatedStatsCollection.peerRows, List.map_map, List.Nodup, List.pairwise_map]
    refine distinct.imp fun {row row'} differ same => differ ?_
    have keys : row.1 = row'.1 := same
    rw [keys]
    exact Std.ReflCmp.compare_self

structure DetailsWindowState extends Entry where
  isOpen : Bool := false
  deriving DecidableEq

/-- What the mouse can be over, in the order in which it is drawn: the window up to
its content, headers, messages, rows (by their place in the list) and lines. -/
inductive Item
  | window
  | header (dataSource : Enumeration)
  | message (dataSource : Enumeration)
  | row (dataSource : Enumeration) (top : Bool) (place : Nat)
  | separator (dataSource : Enumeration)
  deriving DecidableEq

/-- What one frame depends on, for a window that is shown and has statistics. -/
structure Frame where
  options : HealWindowOptions
  collection : Collection
  selfUniqueId : UInt64
  evtcRpcEnabled : Bool
  connected : Bool
  endpoint : CString
  clicked : Option Item
  closed : Enumeration → UInt64 → Bool

inductive Colour
  | profession (profession elite : UInt32)
  | subgroup (subgroup : UInt16)

structure Row where
  name : CString
  numbers : Numbers
  total : Option UInt64
  highestHealing : Option UInt64
  indexNumber : Option CString
  professionText : Option (UInt32 × UInt32)
  professionIcon : Option (UInt32 × UInt32)
  nameColour : Option Colour
  barColour : Option Colour
  isSelf : Bool

inductive Drawn
  | header (dataSource : Enumeration)
  | message (endpoint : Option CString)
  | row (id : UInt64) (row : Row)
  | separator
  | details (dataSource : Enumeration) (id : UInt64) (name : CString) (numbers : Numbers)
      (entries : List (CString × Numbers)) (highestHealing : UInt64)

structure Display where
  openWindows : Enumeration → List DetailsWindowState
  drawn : List Drawn := []
  last : Item := .window
  currentFrameLineCount : Nat := 0

def Display.draw (d : Display) (item : Item) (x : Drawn) : Display :=
  { d with drawn := d.drawn ++ [x], last := item }

def anonymousAgent : HealedAgent := ⟨0, [], [], 0, false, true, 0, 0xFFFFFFFF⟩

def getIndexNumberText (indexNumber : Nat) (top selfOnly : Bool) : CString :=
  if top = true then utf8 "   "
  else
    let result := utf8 (Nat.repr (if selfOnly = true then 1 else indexNumber)) ++ utf8 ":"
    if result.length < 3 then result ++ utf8 " " else result

def HasDetails (dataSource : Enumeration) : Prop :=
  dataSource = DataSource.agents ∨ dataSource = DataSource.skills ∨
    dataSource = DataSource.peersOutgoing

instance (dataSource : Enumeration) : Decidable (HasDetails dataSource) :=
  inferInstanceAs (Decidable (_ ∨ _ ∨ _))

/-- The state of a details window gets the entry of this frame. With a click it
is opened or closed, and made if there is none. -/
def touch (entry : Entry) (clicked : Bool) : List DetailsWindowState → List DetailsWindowState
  | [] => if clicked = true then [{ entry with isOpen := true }] else []
  | state :: rest =>
    if state.id = entry.id then { entry with isOpen := state.isOpen ^^ clicked } :: rest
    else state :: touch entry clicked rest

section

variable (u8FwdN : U8FwdN) (f : Frame) (dataSource : Enumeration)

/-- Accounts begin with a colon. -/
def displayedName (agent : HealedAgent) : CString :=
  let name :=
    if f.options.replacePlayerWithAccountName = true then
      match agent.accountName with
      | 58 :: rest => rest
      | name => name
    else agent.name
  if 0 < f.options.maxNameLength then utf8Substr u8FwdN name f.options.maxNameLength.toUInt64
  else if f.options.maxNameLength < 0 then []
  else name

def makeRow (v : AggregatedVector) (index : Nat) (top anonymousMode : Bool) (entry : Entry) :
    Row :=
  let o := f.options
  let agent :=
    if anonymousMode = true ∧ entry.id ≠ f.selfUniqueId then anonymousAgent else entry.agent
  { name := displayedName u8FwdN f agent
    numbers := entry.toNumbers
    total :=
      if o.dataSourceChoice = DataSource.totals then none
      else some (f.collection.getTotal dataSource).healing
    highestHealing := if o.showProgressBars = true then some v.highestHealing else none
    indexNumber :=
      if o.indexNumbers = true then some (getIndexNumberText index top o.selfOnly) else none
    professionText :=
      if o.professionText = true then some (agent.profession, agent.elite) else none
    professionIcon :=
      if o.professionIcons = true then some (agent.profession, agent.elite) else none
    nameColour :=
      if o.useProfessionForNameColour = true then some (.profession agent.profession agent.elite)
      else if o.useSubgroupForNameColour = true then some (.subgroup agent.subgroup)
      else none
    barColour :=
      if o.useSubgroupForBarColour = true then some (.subgroup agent.subgroup)
      else if o.useProfessionForBarColour = true then
        some (.profession agent.profession agent.elite)
      else none
    isSelf := f.selfUniqueId = entry.id }

/-- Whether there is a row for the entry. -/
def IsShown (v : AggregatedVector) (top : Bool) (entry : Entry) : Prop :=
  (top = true ∨ f.options.hideSelfFromList = false ∨ entry.id ≠ f.selfUniqueId ∨
    v.entries.length = 1) ∧ (f.options.selfOnly = false ∨ entry.id = f.selfUniqueId)

instance (v : AggregatedVector) (top : Bool) (entry : Entry) :
    Decidable (IsShown f v top entry) :=
  inferInstanceAs (Decidable ((_ ∨ _ ∨ _ ∨ _) ∧ (_ ∨ _)))

/-- The click is looked for at whatever has been drawn last. -/
def Clicked (d : Display) (entry : Entry) : Prop :=
  f.clicked = some d.last ∧ (f.options.anonymousMode = false ∨ entry.id = f.selfUniqueId)

instance (d : Display) (entry : Entry) : Decidable (Clicked f d entry) :=
  inferInstanceAs (Decidable (_ ∧ (_ ∨ _)))

def drawRow (v : AggregatedVector) (place index : Nat) (top anonymousMode : Bool)
    (entry : Entry) (d : Display) : Display :=
  if IsShown f v top entry then
    { d.draw (.row dataSource top place)
        (.row entry.id (makeRow u8FwdN f dataSource v index top anonymousMode entry)) with
      currentFrameLineCount := d.currentFrameLineCount + 1 }
  else d

def touchDetails (entry : Entry) (d : Display) : Display :=
  if HasDetails dataSource then
    { d with
      openWindows := Function.update d.openWindows dataSource
        (touch entry (Clicked f d entry) (d.openWindows dataSource)) }
  else d

/-- `Display_ContentSingleRow` -/
def contentSingleRow (v : AggregatedVector) (place index : Nat) (top anonymousMode : Bool)
    (entry : Entry) (d : Display) : Display :=
  touchDetails f dataSource entry
    (drawRow u8FwdN f dataSource v place index top anonymousMode entry d)

/-- The loop over the entries, from one of them on. -/
def contentRows (v : AggregatedVector) : Nat → List Entry → Display → Display
  | _, [], d => d
  | i, entry :: rest, d =>
    contentRows v (i + 1) rest (contentSingleRow u8FwdN f dataSource v i (i + 1) false
      f.options.anonymousMode entry d)

/-- The row of self comes first as well, if there are others. -/
def contentTop (v : AggregatedVector) (d : Display) : Display :=
  if f.options.selfOnTop = true ∧ 1 < v.entries.length then
    match v.entries.find? fun entry => entry.id = f.selfUniqueId with
    | some entry =>
      (contentSingleRow u8FwdN f dataSource v 0 0 true false entry d).draw (.separator dataSource)
        .separator
    | none => d
  else d

/-- Why there is no list. -/
def message : Option Drawn :=
  if dataSource = DataSource.peersOutgoing then
    if f.evtcRpcEnabled = false then some (.message none)
    else if f.connected = false then some (.message (some f.endpoint))
    else none
  else none

/-- `Display_Content` -/
def content (d : Display) : Display :=
  match message f dataSource with
  | some text =>
    { d.draw (.message dataSource) text with
      currentFrameLineCount := d.currentFrameLineCount + 3 }
  | none =>
    let v := f.collection.getStats dataSource
    contentRows u8FwdN f dataSource v 0 v.entries (contentTop u8FwdN f dataSource v d)

def titledContent (d : Display) : Display :=
  content u8FwdN f dataSource (d.draw (.header dataSource) (.header dataSource))

/-- The lists of a window. -/
def contents (d : Display) : Display :=
  if f.options.dataSourceChoice ≠ DataSource.combined then
    content u8FwdN f f.options.dataSourceChoice d
  else
    titledContent u8FwdN f DataSource.skills (titledContent u8FwdN f DataSource.agents
      (titledContent u8FwdN f DataSource.totals
        { d with currentFrameLineCount := d.currentFrameLineCount + 3 }))

/-- `Display_DetailsWindow` of a window that is open. -/
def detailsWindow (state : DetailsWindowState) : Drawn :=
  let stats := f.collection.getDetails dataSource state.id
  .details dataSource state.id state.agent.name state.toNumbers
    (stats.entries.map fun entry => (entry.agent.name, entry.toNumbers)) stats.highestHealing

/-- The loop over the details windows of a data source. Those that are closed are
erased in the next frame. -/
def detailsWindows (d : Display) : Display :=
  let kept := (d.openWindows dataSource).filter (·.isOpen)
  { d with
    drawn := d.drawn ++ kept.map (detailsWindow f dataSource)
    openWindows := Function.update d.openWindows dataSource
      (kept.map fun state => { state with isOpen := !f.closed dataSource state.id }) }

/-- A window in one frame. -/
def displayWindow (openWindows : Enumeration → List DetailsWindowState) : Display :=
  detailsWindows f DataSource.peersOutgoing (detailsWindows f DataSource.skills
    (detailsWindows f DataSource.agents (contents u8FwdN f { openWindows })))

/-- The lines that the window is made high enough for, if it is resized. -/
def lineCount (d : Display) : Nat :=
  min (max d.currentFrameLineCount f.options.minLinesDisplayed.toNat)
    f.options.maxLinesDisplayed.toNat

end

def after (u8FwdN : U8FwdN) (fs : List Frame)
    (openWindows : Enumeration → List DetailsWindowState) :
    Enumeration → List DetailsWindowState :=
  fs.foldl (fun openWindows f => (displayWindow u8FwdN f openWindows).openWindows) openWindows

def shows (u8FwdN : U8FwdN) : List Frame → (Enumeration → List DetailsWindowState) →
    List (List Drawn)
  | [], _ => []
  | f :: fs, openWindows =>
    (displayWindow u8FwdN f openWindows).drawn ::
      shows u8FwdN fs (displayWindow u8FwdN f openWindows).openWindows

end ArcdpsHealing.Gui.Content
