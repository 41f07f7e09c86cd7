import ArcdpsHealing.Settings.Options
import Mathlib.Algebra.Order.BigOperators.Group.List
import Mathlib.Algebra.Order.Ring.Nat

namespace ArcdpsHealing.Settings

open Lib JsonType

namespace HealWindowOptions

attribute [ext] HealWindowOptions

variable (w d : HealWindowOptions)

theorem keys_members : (w.members d).map Json.Member.key =
    (({} : HealWindowOptions).members {}).map Json.Member.key := rfl

theorem distinct_members : ((w.members d).map Json.Member.key).Nodup := by
  rw [keys_members]
  decide +kernel

theorem read_back {α : Type} [DecidableEq α] {t : JsonType α} (lossless : t.Lossless) (k : Nat)
    {key : Text} {value default : α}
    (here : (w.members d)[k]? = some (t.setJsonVal key value default)) :
    t.getJsonValue (w.toJson d).reparsed key default = value :=
  getJsonValue_write lossless (w.distinct_members d) k here

theorem fromJson_toJson : d.fromJson (w.toJson d).reparsed = w := by
  ext : 1
  case shown => exact read_back w d lossless_boolean 0 rfl
  case dataSourceChoice => exact read_back w d lossless_int32 1 rfl
  case sortOrderChoice => exact read_back w d lossless_int32 2 rfl
  case combatEndConditionChoice => exact read_back w d lossless_int32 3 rfl
  case excludeGroup => exact read_back w d lossless_boolean 4 rfl
  case excludeOffGroup => exact read_back w d lossless_boolean 5 rfl
  case excludeOffSquad => exact read_back w d lossless_boolean 6 rfl
  case excludeMinions => exact read_back w d lossless_boolean 7 rfl
  case excludeUnmapped => exact read_back w d lossless_boolean 8 rfl
  case excludeHealing => exact read_back w d lossless_boolean 9 rfl
  case excludeBarrierGeneration => exact read_back w d lossless_boolean 10 rfl
  case excludeAgainstDowned => exact read_back w d lossless_boolean 11 rfl
  case excludeAgainstNonDowned => exact read_back w d lossless_boolean 12 rfl
  case showProgressBars => exact read_back w d lossless_boolean 14 rfl
  case useSubgroupForBarColour => exact read_back w d lossless_boolean 15 rfl
  case useProfessionForBarColour => exact read_back w d lossless_boolean 16 rfl
  case indexNumbers => exact read_back w d lossless_boolean 17 rfl
  case professionText => exact read_back w d lossless_boolean 18 rfl
  case professionIcons => exact read_back w d lossless_boolean 19 rfl
  case replacePlayerWithAccountName => exact read_back w d lossless_boolean 20 rfl
  case useProfessionForNameColour => exact read_back w d lossless_boolean 21 rfl
  case useSubgroupForNameColour => exact read_back w d lossless_boolean 22 rfl
  case selfOnTop => exact read_back w d lossless_boolean 23 rfl
  case hideSelfFromList => exact read_back w d lossless_boolean 24 rfl
  case selfOnly => exact read_back w d lossless_boolean 25 rfl
  case anonymousMode => exact read_back w d lossless_boolean 26 rfl
  case name => exact read_back w d lossless_cstring 27 rfl
  case titleFormat => exact read_back w d lossless_cstring 28 rfl
  case entryFormat => exact read_back w d lossless_cstring 29 rfl
  case detailsEntryFormat => exact read_back w d lossless_cstring 30 rfl
  case includedSkills => exact read_back w d lossless_cstring 13 rfl
  case windowFlags => exact read_back w d lossless_int32 31 rfl
  case hotkey => exact read_back w d lossless_int32 32 rfl
  case positionRule => exact read_back w d lossless_int32 33 rfl
  case relativeScreenCorner => exact read_back w d lossless_int32 34 rfl
  case relativeSelfCorner => exact read_back w d lossless_int32 35 rfl
  case relativeAnchorWindowCorner => exact read_back w d lossless_int32 36 rfl
  case relativeX => exact read_back w d lossless_int64 37 rfl
  case relativeY => exact read_back w d lossless_int64 38 rfl
  case anchorWindowId => exact read_back w d lossless_uint32 39 rfl
  case autoResize => exact read_back w d lossless_boolean 40 rfl
  case maxNameLength => exact read_back w d lossless_int64 41 rfl
  case minLinesDisplayed => exact read_back w d lossless_uint64 42 rfl
  case maxLinesDisplayed => exact read_back w d lossless_uint64 43 rfl
  case fixedWindowWidth => exact read_back w d lossless_uint64 44 rfl

theorem differs_members : ∀ m ∈ w.members w, m.differs = false := by
  simp only [members, setJsonVal, List.forall_mem_cons, ne_eq, not_true, decide_false, true_and]
  exact List.forall_mem_nil _

theorem isNull_toJson : (w.toJson d).isNull = true ↔ w = d := by
  constructor
  · intro null
    have read := w.fromJson_toJson d
    cases written : w.toJson d with
    | null =>
      rw [written] at read
      exact read.symm
    | boolean | integer | unsigned | float | string | array | object =>
      rw [written] at null
      cases null
  · rintro rfl
    exact (Json.isNull_write (w.members w) (j := .null) trivial).mpr ⟨rfl, w.differs_members⟩

theorem size_keys : ((((({} : HealWindowOptions).members {}).map Json.Member.key).map
    fun key => 4 + 6 * key.length).sum) = 4362 := by
  decide +kernel

theorem size_values :
    (((w.members d).map Json.Member.value).map Json.size).sum ≤ 3700 := by
  have includedSkills := w.includedSkills.property.1
  have name := w.name.property.1
  have titleFormat := w.titleFormat.property.1
  have entryFormat := w.entryFormat.property.1
  have detailsEntryFormat := w.detailsEntryFormat.property.1
  simp only [maxHealWindowIncludedSkills, maxHealWindowName, maxHealWindowTitle,
    maxHealWindowEntry] at includedSkills name titleFormat entryFormat detailsEntryFormat
  simp only [members, setJsonVal, List.map_cons, List.map_nil, boolean, int32, int64, uint32,
    uint64, cstring, Json.size, List.sum_cons, List.sum_nil]
  omega

theorem size_toJson : (w.toJson d).size ≤ 8066 := by
  have bound := Json.size_write (w.members d) .null
  have values := w.size_values d
  rw [Json.sum_cost, keys_members, size_keys, Json.size] at bound
  exact bound.trans (by omega)

structure Valid : Prop where
  includedSkills : ValidUtf8 w.includedSkills.val
  name : ValidUtf8 w.name.val
  titleFormat : ValidUtf8 w.titleFormat.val
  entryFormat : ValidUtf8 w.entryFormat.val
  detailsEntryFormat : ValidUtf8 w.detailsEntryFormat.val

theorem valid_toJson (valid : w.Valid) : (w.toJson d).Valid := by
  apply Json.valid_write (w.members d) (j := .null) trivial
  simp only [members, setJsonVal, List.forall_mem_cons, boolean, int32, int64, uint32, uint64,
    cstring, Json.Valid, validUtf8_utf8, valid.includedSkills, valid.name, valid.titleFormat,
    valid.entryFormat, valid.detailsEntryFormat, and_self, true_and]
  exact List.forall_mem_nil _

end HealWindowOptions

namespace HealTableOptions

attribute [ext] HealTableOptions

variable (o d : HealTableOptions)

theorem distinct_windowMembers : ((o.windowMembers d).map Json.Member.key).Nodup := by
  have keys : (o.windowMembers d).map Json.Member.key =
      (List.finRange healWindowCount).map fun i : Fin _ => Json.digits i := by
    simp only [windowMembers, List.map_map, Function.comp_def]
  rw [keys]
  decide +kernel

theorem find_windowsToJson (i : Fin healWindowCount) :
    (o.windowsToJson d).find (Json.digits i) =
      if o.windows i = d.windows i then none else some ((o.windows i).toJson (d.windows i)) := by
  let window := (o.windows i).toJson (d.windows i)
  have here : ⟨Json.digits i, !window.isNull, window⟩ ∈ o.windowMembers d :=
    List.mem_map.mpr ⟨i, List.mem_finRange i, rfl⟩
  have found := Json.find_write (o.windowMembers d) (j := .null) trivial
    (o.distinct_windowMembers d) here
  have null : window.isNull = true ↔ o.windows i = d.windows i :=
    (o.windows i).isNull_toJson (d.windows i)
  change (o.windowsToJson d).find (Json.digits i) = ite ((!window.isNull) = true) _ none at found
  rw [found]
  by_cases same : o.windows i = d.windows i
  · rw [if_pos same, null.mpr same]
    rfl
  · have written : window.isNull = false := by simpa using mt null.mp same
    rw [if_neg same, written]
    rfl

theorem isNull_windowsToJson : (o.windowsToJson d).isNull = true ↔ o.windows = d.windows := by
  have null := Json.isNull_write (o.windowMembers d) (j := .null) trivial
  refine null.trans ?_
  rw [funext_iff]
  constructor
  · rintro ⟨-, same⟩ i
    rw [← (o.windows i).isNull_toJson (d.windows i)]
    simpa using same _ (List.mem_map.mpr ⟨i, List.mem_finRange i, rfl⟩)
  · intro same
    refine ⟨rfl, ?_⟩
    intro m here
    obtain ⟨i, -, rfl⟩ := List.mem_map.mp here
    simpa using ((o.windows i).isNull_toJson (d.windows i)).mpr (same i)

theorem keys_members : (o.members d).map Json.Member.key =
    (({} : HealTableOptions).members {}).map Json.Member.key := by
  simp only [members, setJsonVal, List.map_cons, List.map_nil]

theorem distinct_members : ((o.members d).map Json.Member.key).Nodup := by
  rw [keys_members]
  decide +kernel

theorem find_toJson {m : Json.Member} (here : m ∈ o.members {}) :
    o.toJson.find m.key = if m.differs = true then some m.value else none :=
  Json.find_write (o.members {}) (j := .null) trivial (o.distinct_members {}) here

theorem read_back {α : Type} [DecidableEq α] {t : JsonType α} (lossless : t.Lossless) (k : Nat)
    {key : Text} {value default : α}
    (here : (o.members {})[k]? = some (t.setJsonVal key value default)) :
    t.getJsonValue o.toJson.reparsed key default = value :=
  getJsonValue_write lossless (o.distinct_members {}) k here

theorem find_windows : o.toJson.find (utf8 "Windows") =
    if o.windows = freshWindow then none else some (o.windowsToJson {}) := by
  let m : Json.Member :=
    ⟨utf8 "Windows", !(o.windowsToJson {}).isNull, o.windowsToJson {}⟩
  have here : (o.members {})[11]? = some m := rfl
  have found := o.find_toJson (List.mem_of_getElem? here)
  change o.toJson.find (utf8 "Windows") =
    ite ((!(o.windowsToJson {}).isNull) = true) (some (o.windowsToJson {})) none at found
  rw [found]
  have null : (o.windowsToJson {}).isNull = true ↔ o.windows = freshWindow :=
    o.isNull_windowsToJson {}
  by_cases same : o.windows = freshWindow
  · rw [if_pos same, null.mpr same]
    rfl
  · have written : (o.windowsToJson {}).isNull = false := by simpa using mt null.mp same
    rw [if_neg same, written]
    rfl

theorem windows_fromJson_toJson (i : Fin healWindowCount) :
    (({} : HealTableOptions).fromJson o.toJson.reparsed).windows i = o.windows i := by
  have found := Json.find_reparsed (utf8 "Windows") o.toJson
  rw [find_windows] at found
  by_cases same : o.windows = freshWindow
  · rw [if_pos same] at found
    simp only [fromJson, found, Option.map_none, same]
  · have null : (o.windowsToJson {}).isNull = false := by
      simpa using mt (o.isNull_windowsToJson {}).mp same
    have opened := Json.open_write (o.windowMembers {}) (j := .null) trivial
    obtain ⟨windows, written⟩ := opened.eq_object null
    have window := o.find_windowsToJson {} i
    change o.windowsToJson {} = .object windows at written
    rw [written] at window
    change windows.find (Json.digits i) = _ at window
    rw [if_neg same, written, Option.map_some, Json.reparsed] at found
    simp only [fromJson, found, Members.find_reparsed, window]
    by_cases here : o.windows i = freshWindow i
    · rw [if_pos here]
      exact here.symm
    · rw [if_neg here]
      exact (o.windows i).fromJson_toJson (freshWindow i)

theorem fromJson_toJson : ({} : HealTableOptions).fromJson o.toJson.reparsed = o := by
  ext : 1
  case autoUpdateSetting => exact o.read_back lossless_uint8 1 rfl
  case debugMode => exact o.read_back lossless_boolean 2 rfl
  case grpcDnsResolverCAres => exact o.read_back lossless_boolean 3 rfl
  case logLevel => exact o.read_back lossless_int32 4 rfl
  case evtcLoggingEnabled => exact o.read_back lossless_boolean 5 rfl
  case evtcRpcEndpoint => exact o.read_back lossless_cstring 6 rfl
  case evtcRpcEnabled => exact o.read_back lossless_boolean 7 rfl
  case evtcRpcBudgetMode => exact o.read_back lossless_boolean 8 rfl
  case evtcRpcDisableEncryption => exact o.read_back lossless_boolean 9 rfl
  case evtcRpcEnabledHotkey => exact o.read_back lossless_int32 10 rfl
  case windows => exact funext o.windows_fromJson_toJson

theorem size_windowsToJson : (o.windowsToJson d).size ≤ 80764 := by
  have bound := Json.size_write (o.windowMembers d) .null
  have keys : (((o.windowMembers d).map Json.Member.key).map fun key => 4 + 6 * key.length).sum =
      100 := by
    simp only [windowMembers, List.map_map, Function.comp_def]
    decide +kernel
  have values : (((o.windowMembers d).map Json.Member.value).map Json.size).sum ≤
      healWindowCount * 8066 := by
    have each : ∀ n ∈ ((o.windowMembers d).map Json.Member.value).map Json.size, n ≤ 8066 := by
      simp only [windowMembers, List.map_map, List.forall_mem_map]
      exact fun i _ => (o.windows i).size_toJson (d.windows i)
    have total := List.sum_le_card_nsmul _ _ each
    rw [List.length_map, List.length_map, windowMembers, List.length_map,
      List.length_finRange] at total
    exact total
  rw [Json.sum_cost, keys, Json.size] at bound
  exact bound.trans (Nat.add_le_add_right (Nat.add_le_add_left values 100) 4)

theorem size_toJson : o.toJson.size ≤ 82746 := by
  have bound := Json.size_write (o.members {}) .null
  have keys : (((o.members {}).map Json.Member.key).map fun key => 4 + 6 * key.length).sum =
      1104 := by
    rw [keys_members]
    decide +kernel
  have values : (((o.members {}).map Json.Member.value).map Json.size).sum ≤ 81638 := by
    have evtcRpcEndpoint := o.evtcRpcEndpoint.property.1
    have windows := o.size_windowsToJson {}
    simp only [members, setJsonVal, List.map_cons, List.map_nil, boolean, int32, uint8, cstring,
      Json.size, List.sum_cons, List.sum_nil]
    omega
  rw [Json.sum_cost, keys, Json.size] at bound
  exact bound.trans (by omega)

structure Valid : Prop where
  evtcRpcEndpoint : ValidUtf8 o.evtcRpcEndpoint.val
  windows : ∀ i, (o.windows i).Valid

theorem validUtf8_digits : ∀ i : Fin healWindowCount, ValidUtf8 (Json.digits i) := by
  decide +kernel

variable {o} in
theorem valid_toJson (valid : o.Valid) : o.toJson.Valid := by
  have windows : (o.windowsToJson {}).Valid := by
    apply Json.valid_write (o.windowMembers {}) (j := .null) trivial
    simp only [windowMembers, List.forall_mem_map]
    exact fun i _ => ⟨validUtf8_digits i, (o.windows i).valid_toJson _ (valid.windows i)⟩
  apply Json.valid_write (o.members {}) (j := .null) trivial
  simp only [members, setJsonVal, List.forall_mem_cons, boolean, int32, uint8, cstring, Json.Valid,
    validUtf8_utf8, valid.evtcRpcEndpoint, windows, and_self, true_and]
  exact List.forall_mem_nil _

end HealTableOptions

structure JsonLibrary.Documented (lib : JsonLibrary) (j : Json) : Prop where
  compact : j.Valid → lib.dump j = some j.text
  lossless : j.Valid → lib.parse j.text = some j.reparsed

namespace HealTableOptions

theorem load_of_printable {lib : JsonLibrary} {file : Text} (short : file.length < bufferSize - 1)
    (printable : Printable file) (o : HealTableOptions) :
    o.load lib file = (lib.parse file).elim o o.fromJson := by
  have whole : file.takeWhile (· ≠ 0) = file := by
    rw [List.takeWhile_eq_self_iff]
    intro b member
    have visible := printable b member
    exact decide_eq_true fun zero => absurd (zero ▸ visible) (by decide)
  have read : file.take (bufferSize - 1) = file := List.take_of_length_le (Nat.le_of_lt short)
  simp only [load, read, if_neg (Nat.ne_of_lt short), whole]
  cases lib.parse file with
  | none => rfl
  | some j => rfl

/-- Saved settings are loaded again. Of the fields and windows just those are in
the file that are not as the constructor has them. -/
theorem settings_round_trip (lib : JsonLibrary) (o : HealTableOptions) (valid : o.Valid)
    (documented : lib.Documented o.toJson) :
    ∃ file, o.save lib = some file ∧ ({} : HealTableOptions).load lib file = o ∧
      file.length < bufferSize - 1 ∧ Printable file ∧
      (∀ m ∈ o.members {}, o.toJson.find m.key = if m.differs = true then some m.value else none) ∧
      (∀ i : Fin healWindowCount, (o.toJson.find (utf8 "Windows")).bind (·.find (Json.digits i)) =
        if o.windows i = freshWindow i then none
        else some ((o.windows i).toJson (freshWindow i))) ∧
      ∀ i, ∀ m ∈ (o.windows i).members (freshWindow i),
        ((o.windows i).toJson (freshWindow i)).find m.key =
          if m.differs = true then some m.value else none := by
  have short : o.toJson.text.length < bufferSize - 1 :=
    Nat.lt_of_le_of_lt (o.toJson.length_text.trans o.size_toJson) (by decide)
  have printable := o.toJson.printable_text
  refine ⟨o.toJson.text, documented.compact (valid_toJson valid), ?_, short, printable,
    fun m => o.find_toJson, ?_, ?_⟩
  · rw [load_of_printable short printable, documented.lossless (valid_toJson valid)]
    exact o.fromJson_toJson
  · intro i
    rw [find_windows]
    by_cases same : o.windows = freshWindow
    · rw [if_pos same, if_pos (congrFun same i)]
      rfl
    · rw [if_neg same]
      exact o.find_windowsToJson {} i
  · intro i m here
    exact Json.find_write ((o.windows i).members (freshWindow i)) (j := .null) trivial
      ((o.windows i).distinct_members (freshWindow i)) here

def extreme : HealTableOptions where
  logLevel := -5
  evtcRpcEndpoint := .copy (utf8 "localhost:443")
  windows _ := { relativeX := -9223372036854775808, maxLinesDisplayed := 18446744073709551615 }

theorem settings_round_trip_extreme :
    ∃ file, extreme.save ⟨fun j => some j.text, fun _ => some extreme.toJson.reparsed⟩ = some file ∧
      ({} : HealTableOptions).load ⟨fun j => some j.text, fun _ => some extreme.toJson.reparsed⟩
        file = extreme := by
  have window : ∀ i, (extreme.windows i).Valid := fun i =>
    ⟨validUtf8_utf8 "", validUtf8_utf8 "", validUtf8_utf8 _, validUtf8_utf8 _, validUtf8_utf8 _⟩
  obtain ⟨file, saved, loaded, -⟩ := settings_round_trip
    ⟨fun j => some j.text, fun _ => some extreme.toJson.reparsed⟩ extreme
    ⟨⟨"localhost:443".toList, by decide +kernel⟩, window⟩ ⟨fun _ => rfl, fun _ => rfl⟩
  exact ⟨file, saved, loaded⟩

/-- Where nothing differs only the version is written. -/
example : ({} : HealTableOptions).toJson.text = Json.ascii "\x7b\"Version\":1\x7d" := by
  decide +kernel

end HealTableOptions

end ArcdpsHealing.Settings
