import ArcdpsHealing.Lib.Run
import ArcdpsHealing.Settings.Truncation

/-! The settings on the disk, from one session to the next. -/

namespace ArcdpsHealing.Settings

open Lib

/-- The library that reads the legacy file, with the object that it reads it
into. A `long` has 32 bits. -/
structure IniLibrary (I : Type) where
  empty : I
  loadFile : I → Text → I × Int32
  getValue : I → Text → Text → Option Text
  getLongValue : I → Text → Text → Int32 → Int32
  getBoolValue : I → Text → Text → Bool → Bool

namespace IniLibrary

variable {I : Type} (lib : IniLibrary I) (healtableIni : I)

def copyValue {n : Nat} (sect key : Text) (current : FixedString (n + 1)) :
    FixedString (n + 1) :=
  match lib.getValue healtableIni sect key with
  | some val => .copy val
  | none => current

/-- The part of `ReadIni` for one window. -/
def readWindow (sect : Text) (w : HealWindowOptions) : HealWindowOptions :=
  { w with
    shown := lib.getBoolValue healtableIni sect (utf8 "show_window") w.shown
    hotkey := lib.getLongValue healtableIni sect (utf8 "hotkey") w.hotkey
    dataSourceChoice :=
      lib.getLongValue healtableIni sect (utf8 "data_source_choice") w.dataSourceChoice
    sortOrderChoice :=
      lib.getLongValue healtableIni sect (utf8 "sort_order_choice") w.sortOrderChoice
    combatEndConditionChoice :=
      lib.getLongValue healtableIni sect (utf8 "combat_end_condition_choice")
        w.combatEndConditionChoice
    excludeGroup := lib.getBoolValue healtableIni sect (utf8 "exclude_group") w.excludeGroup
    excludeOffGroup :=
      lib.getBoolValue healtableIni sect (utf8 "exclude_off_group") w.excludeOffGroup
    excludeOffSquad :=
      lib.getBoolValue healtableIni sect (utf8 "exclude_off_squad") w.excludeOffSquad
    excludeMinions :=
      lib.getBoolValue healtableIni sect (utf8 "exclude_minions") w.excludeMinions
    excludeUnmapped :=
      lib.getBoolValue healtableIni sect (utf8 "exclude_unmapped") w.excludeUnmapped
    showProgressBars :=
      lib.getBoolValue healtableIni sect (utf8 "show_progress_bars") w.showProgressBars
    name := lib.copyValue healtableIni sect (utf8 "name") w.name
    titleFormat := lib.copyValue healtableIni sect (utf8 "title_format") w.titleFormat
    entryFormat := lib.copyValue healtableIni sect (utf8 "entry_format") w.entryFormat
    detailsEntryFormat :=
      lib.copyValue healtableIni sect (utf8 "details_entry_format") w.detailsEntryFormat
    windowFlags := lib.getLongValue healtableIni sect (utf8 "window_flags") w.windowFlags }

def readSettings (o : HealTableOptions) : HealTableOptions :=
  { o with
    debugMode :=
      lib.getBoolValue healtableIni (utf8 "settings") (utf8 "debug_mode") o.debugMode
    logLevel := lib.getLongValue healtableIni (utf8 "settings") (utf8 "log_level") o.logLevel
    evtcRpcEnabled :=
      lib.getBoolValue healtableIni (utf8 "settings") (utf8 "evtc_rpc_enabled") o.evtcRpcEnabled
    windows := fun i =>
      lib.readWindow healtableIni (utf8 "heal_window_" ++ Json.digits i) (o.windows i) }

/-- `ReadIni`, of a file that can be opened or of none. There are no options if it
returns false. Old files count as empty. -/
def readIni (o : HealTableOptions) : Option Text → Option HealTableOptions × I
  | none => (none, healtableIni)
  | some file =>
    let (ini, error) := lib.loadFile healtableIni file
    if error < 0 then (none, ini)
    else if (lib.getLongValue ini (utf8 "ini") (utf8 "version") 0).toUInt32 ≤ 2 then
      (some o, lib.empty)
    else (some (lib.readSettings ini o), ini)

end IniLibrary

/-- What becomes of a `Save`: the file cannot be opened, or so many bytes get to
the disk until something fails or the game ends, or all of them do. -/
inductive Writing
  | closed
  | cut (bytes : Nat)
  | whole

/-- What becomes of a `Load`: the file cannot be opened, and the legacy file
perhaps can, or the file cannot be read or closed, or it is read. -/
inductive Reading
  | closed (ini : Bool) (w : Writing) (removes : Bool)
  | failed
  | read

structure Saving where
  options : HealTableOptions
  text : Text
  bytes : Nat

/-- The two files, the settings of the module that is loaded, and all that has
been written to the first file so far. -/
structure Storage (I : Type) where
  json : Option Text := none
  ini : Option Text := none
  healtableIni : I
  options : HealTableOptions := {}
  written : List Saving := []

namespace Storage

variable {I : Type} (jsonLib : JsonLibrary) (iniLib : IniLibrary I) (s : Storage I)

def write (x : Saving) : Storage I :=
  { s with json := some (x.text.take x.bytes), written := s.written ++ [x] }

/-- `Save`. It returns nothing if the library throws. -/
def save (w : Writing) : Storage I × Option Bool :=
  match s.options.save jsonLib with
  | none => (s, none)
  | some text =>
    match w with
    | .closed => (s, some false)
    | .cut bytes => (s.write ⟨s.options, text, bytes⟩, some false)
    | .whole => (s.write ⟨s.options, text, text.length⟩, some true)

/-- `Load` where the file cannot be opened. -/
def migrate (file : Option Text) (w : Writing) (removes : Bool) : Storage I :=
  match iniLib.readIni s.healtableIni s.options file with
  | (none, ini) => { s with healtableIni := ini }
  | (some o, ini) =>
    let (t, saved) := { s with healtableIni := ini, options := o }.save jsonLib w
    if saved = some true ∧ removes = true then { t with ini := none } else t

def load : Reading → Storage I
  | .closed ini w removes => s.migrate jsonLib iniLib (if ini then s.ini else none) w removes
  | .failed => s
  | .read =>
    match s.json with
    | none => s
    | some file => { s with options := s.options.load jsonLib file }

def started : Storage I := { s with healtableIni := iniLib.empty, options := {} }

inductive Op
  | start
  | load (r : Reading)
  | edit (o : HealTableOptions)
  | save (w : Writing)

/-- The game can end between any two steps, and within a `Save`. -/
inductive Step (s : Storage I) : Op → Storage I → Prop
  | start : Step s .start (s.started iniLib)
  | load {r} (opened : (∃ ini w removes, r = .closed ini w removes) ∨ s.json.isSome) :
      Step s (.load r) (s.load jsonLib iniLib r)
  | edit {o} : Step s (.edit o) { s with options := o }
  | save {w} : Step s (.save w) (s.save jsonLib w).1

variable {jsonLib : JsonLibrary} {iniLib : IniLibrary I} {s t : Storage I} {ini : Option Text}

variable (jsonLib) in
theorem save_cases (s : Storage I) (w : Writing) :
    (s.save jsonLib w).1 = s ∧ (s.save jsonLib w).2 ≠ some true ∨
      ∃ x : Saving, (s.save jsonLib w).1 = s.write x ∧ x.options = s.options ∧
        x.options.save jsonLib = some x.text ∧
        ((s.save jsonLib w).2 = some true → x.bytes = x.text.length) := by
  unfold save
  cases dump : s.options.save jsonLib with
  | none => exact .inl ⟨rfl, nofun⟩
  | some text =>
    cases w with
    | closed => exact .inl ⟨rfl, nofun⟩
    | cut bytes => exact .inr ⟨⟨s.options, text, bytes⟩, rfl, rfl, dump, nofun⟩
    | whole => exact .inr ⟨⟨s.options, text, text.length⟩, rfl, rfl, dump, fun _ => rfl⟩

variable (jsonLib) in
theorem options_save (s : Storage I) (w : Writing) :
    (s.save jsonLib w).1.options = s.options := by
  obtain ⟨same, -⟩ | ⟨x, after, -⟩ := s.save_cases jsonLib w
  · rw [same]
  · rw [after]
    rfl

theorem options_migrate (s : Storage I) (file : Option Text) (w : Writing) (removes : Bool) :
    (s.migrate jsonLib iniLib file w removes).options =
      (iniLib.readIni s.healtableIni s.options file).1.getD s.options := by
  unfold migrate
  split
  · rename_i read
    rw [read]
    rfl
  · rename_i o object read
    rw [read]
    have saved := options_save jsonLib { s with healtableIni := object, options := o } w
    dsimp only
    split <;> exact saved

structure Inv (jsonLib : JsonLibrary) (iniLib : IniLibrary I) (ini : Option Text)
    (s : Storage I) : Prop where
  json : s.json = s.written.getLast?.map fun x => x.text.take x.bytes
  saved : ∀ x ∈ s.written, x.options.save jsonLib = some x.text
  legacy : s.ini = ini ∨ s.ini = none ∧ ∃ x ∈ s.written, x.bytes = x.text.length ∧
    ∃ object o, (iniLib.readIni object o ini).1 = some x.options

namespace Inv

theorem write {x : Saving} (inv : Inv jsonLib iniLib ini s)
    (saved : x.options.save jsonLib = some x.text) : Inv jsonLib iniLib ini (s.write x) where
  json := by
    unfold Storage.write
    rw [List.getLast?_concat]
    rfl
  saved := List.forall_mem_append.mpr ⟨inv.saved, List.forall_mem_singleton.mpr saved⟩
  legacy := by
    obtain kept | ⟨gone, y, mem, rest⟩ := inv.legacy
    · exact .inl kept
    · exact .inr ⟨gone, y, List.mem_append_left _ mem, rest⟩

theorem save (inv : Inv jsonLib iniLib ini s) (w : Writing) :
    Inv jsonLib iniLib ini (s.save jsonLib w).1 := by
  obtain ⟨same, -⟩ | ⟨x, after, -, saved, -⟩ := s.save_cases jsonLib w
  · rw [same]
    exact inv
  · rw [after]
    exact inv.write saved

theorem inMemory (inv : Inv jsonLib iniLib ini s) (object : I) (o : HealTableOptions) :
    Inv jsonLib iniLib ini { s with healtableIni := object, options := o } :=
  ⟨inv.json, inv.saved, inv.legacy⟩

theorem migrate (inv : Inv jsonLib iniLib ini s) {file : Option Text}
    (legacy : file = none ∨ file = s.ini) (w : Writing) (removes : Bool) :
    Inv jsonLib iniLib ini (s.migrate jsonLib iniLib file w removes) := by
  unfold Storage.migrate
  split
  · exact inv.inMemory _ _
  · rename_i o object read
    have saved := (inv.inMemory object o).save w
    dsimp only
    split
    · rename_i done
      obtain ⟨-, failed⟩ | ⟨x, after, same, -, whole⟩ :=
        ({ s with healtableIni := object, options := o } : Storage I).save_cases jsonLib w
      · exact absurd done.1 failed
      · refine ⟨saved.json, saved.saved, .inr ⟨rfl, x, ?_, whole done.1, s.healtableIni,
          s.options, ?_⟩⟩
        · rw [after]
          exact List.mem_append_right _ (List.mem_singleton_self x)
        · -- no settings come from a legacy file that is gone
          have there : file = ini := by
            obtain rfl | rfl := legacy
            · cases read
            · obtain kept | ⟨gone, -⟩ := inv.legacy
              · exact kept
              · rw [gone] at read
                cases read
          rw [← there, read, same]
    · exact saved

theorem step {op : Op} (inv : Inv jsonLib iniLib ini s) (step : Step jsonLib iniLib s op t) :
    Inv jsonLib iniLib ini t := by
  cases step with
  | start => exact inv.inMemory iniLib.empty {}
  | @load r =>
    cases r with
    | closed opens w removes =>
      refine inv.migrate ?_ w removes
      cases opens with
      | false => exact .inl rfl
      | true => exact .inr rfl
    | failed => exact inv
    | read =>
      unfold Storage.load
      dsimp only
      split
      · exact inv
      · exact inv.inMemory s.healtableIni _
  | edit => exact inv.inMemory s.healtableIni _
  | save => exact inv.save _

end Inv

theorem run_inv {ops : List Op}
    (run : Run (Step jsonLib iniLib) { ini := ini, healtableIni := iniLib.empty } ops s) :
    Inv jsonLib iniLib ini s :=
  run.invariant (fun _ => True) (fun inv _ step => inv.step step)
    ⟨rfl, List.forall_mem_nil _, .inl rfl⟩ (fun _ _ => trivial)

theorem load_take (o : HealTableOptions) (bytes : Nat) :
    ({} : HealTableOptions).load jsonLib (o.toJson.text.take bytes) =
      (jsonLib.parse (o.toJson.text.take bytes)).elim {} ({} : HealTableOptions).fromJson := by
  have short : (o.toJson.text.take bytes).length < HealTableOptions.bufferSize - 1 := by
    have size := o.toJson.length_text.trans o.size_toJson
    rw [List.length_take]
    exact Nat.lt_of_le_of_lt ((Nat.min_le_right _ _).trans size) (by decide)
  have printable : Printable (o.toJson.text.take bytes) := fun b mem =>
    o.toJson.printable_text b (List.mem_of_mem_take mem)
  exact HealTableOptions.load_of_printable short printable {}

/-- The settings that were saved last, unless the file was cut short then. -/
def latest : HealTableOptions :=
  match s.written.getLast? with
  | none => {}
  | some x => if x.text.length ≤ x.bytes then x.options else {}

end Storage

structure JsonLibrary.Strict (lib : JsonLibrary) (j : Json) : Prop where
  dump : ¬ j.Valid → lib.dump j = none
  parse : ∀ n < j.text.length, lib.parse (j.text.take n) = none

namespace Storage

variable {I : Type} {jsonLib : JsonLibrary} {iniLib : IniLibrary I} {s t : Storage I}
  {ini : Option Text}

theorem load_written {x : Saving} (saved : x.options.save jsonLib = some x.text)
    (documented : jsonLib.Documented x.options.toJson) (strict : jsonLib.Strict x.options.toJson) :
    ({} : HealTableOptions).load jsonLib (x.text.take x.bytes) =
      if x.text.length ≤ x.bytes then x.options else {} := by
  have valid : x.options.toJson.Valid := by
    by_contra invalid
    exact absurd (saved.symm.trans (strict.dump invalid)) (by rintro ⟨⟩)
  have text : x.text = x.options.toJson.text :=
    Option.some.inj (saved.symm.trans (documented.compact valid))
  rw [text, load_take]
  by_cases whole : x.options.toJson.text.length ≤ x.bytes
  · rw [if_pos whole, List.take_of_length_le whole, documented.lossless valid]
    exact x.options.fromJson_toJson
  · rw [if_neg whole, strict.parse x.bytes (Nat.lt_of_not_le whole), Option.elim_none]

/-- A session begins with what was saved last, with the settings of the legacy
file where there is nothing else, or with those of the constructor, but never
with a part of what was saved. No settings of the legacy file are removed unless
they have been saved in full. -/
theorem next_session {ops : List Op}
    (run : Run (Step jsonLib iniLib) { ini := ini, healtableIni := iniLib.empty } ops s)
    (documented : ∀ x, s.written.getLast? = some x →
      jsonLib.Documented x.options.toJson ∧ jsonLib.Strict x.options.toJson) :
    (s.json = none ↔ s.written = []) ∧
      ((s.started iniLib).load jsonLib iniLib .read).options = s.latest ∧
      (∀ w removes, ((s.started iniLib).load jsonLib iniLib (.closed true w removes)).options =
        (iniLib.readIni iniLib.empty {} s.ini).1.getD {}) ∧
      (s.ini = ini ∨ s.ini = none ∧ ∃ x ∈ s.written, x.bytes = x.text.length ∧
        ∃ object o, (iniLib.readIni object o ini).1 = some x.options) := by
  have inv := run_inv run
  refine ⟨?_, ?_, ?_, inv.legacy⟩
  · rw [inv.json, Option.map_eq_none_iff, List.getLast?_eq_none_iff]
  · have file := inv.json
    unfold latest
    cases last : s.written.getLast? with
    | none =>
      rw [last, Option.map_none] at file
      unfold load started
      dsimp only
      rw [file]
    | some x =>
      rw [last, Option.map_some] at file
      have saved := inv.saved x (List.mem_of_getLast? last)
      unfold load started
      dsimp only
      rw [file]
      exact load_written saved (documented x last).1 (documented x last).2
  · intro w removes
    exact options_migrate (s.started iniLib) s.ini w removes

def debugging : Text := utf8 "[ini]\nversion=3\n[settings]\ndebug_mode=1\n"

def debuggingLib : IniLibrary Text where
  empty := []
  loadFile _ file := (file, 0)
  getValue _ _ _ := none
  getLongValue object sect key default :=
    if object = debugging ∧ sect = utf8 "ini" ∧ key = utf8 "version" then 3 else default
  getBoolValue object sect key default :=
    if object = debugging ∧ sect = utf8 "settings" ∧ key = utf8 "debug_mode" then true else default

def debuggingOptions : HealTableOptions := debuggingLib.readSettings debugging {}

theorem valid_debuggingOptions : debuggingOptions.Valid where
  evtcRpcEndpoint := HealTableOptions.valid_defaults.evtcRpcEndpoint
  windows i := by
    have valid := valid_freshWindow i
    exact ⟨valid.includedSkills, valid.name, valid.titleFormat, valid.entryFormat,
      valid.detailsEntryFormat⟩

def debuggingJson : JsonLibrary where
  dump j := some j.text
  parse text :=
    if text = debuggingOptions.toJson.text then some debuggingOptions.toJson.reparsed else none

theorem parse_debuggingJson (text : Text) : debuggingJson.parse text =
    if text = debuggingOptions.toJson.text then some debuggingOptions.toJson.reparsed else none :=
  rfl

theorem next_session_debugging :
    ∃ s, Run (Step debuggingJson debuggingLib) { ini := some debugging, healtableIni := [] }
        [.load (.closed true .whole true)] s ∧ s.ini = none ∧
      ((s.started debuggingLib).load debuggingJson debuggingLib .read).options =
        debuggingOptions ∧
      debuggingOptions.debugMode = true := by
  obtain ⟨s, run, gone, last⟩ : ∃ s, Run (Step debuggingJson debuggingLib)
        { ini := some debugging, healtableIni := [] } [.load (.closed true .whole true)] s ∧
      s.ini = none ∧ s.written.getLast? = some ⟨debuggingOptions,
        debuggingOptions.toJson.text, debuggingOptions.toJson.text.length⟩ :=
    ⟨_, .snoc .nil (.load (.inl ⟨_, _, _, rfl⟩)), rfl, rfl⟩
  have documented : debuggingJson.Documented debuggingOptions.toJson :=
    ⟨fun _ => rfl, fun _ => (parse_debuggingJson _).trans (if_pos rfl)⟩
  have strict : debuggingJson.Strict debuggingOptions.toJson := by
    refine ⟨fun invalid => ?_, fun n short => ?_⟩
    · exact absurd (HealTableOptions.valid_toJson valid_debuggingOptions) invalid
    · refine (parse_debuggingJson _).trans (if_neg fun same => ?_)
      have length := congrArg List.length same
      rw [List.length_take_of_le (Nat.le_of_lt short)] at length
      exact absurd length (Nat.ne_of_lt short)
  obtain ⟨-, session, -⟩ := next_session run (by
    intro x here
    obtain rfl := Option.some.inj (last.symm.trans here)
    exact ⟨documented, strict⟩)
  refine ⟨s, run, gone, session.trans ?_, by decide +kernel⟩
  unfold latest
  rw [last]
  exact if_pos (Nat.le_refl _)

end Storage

end ArcdpsHealing.Settings
