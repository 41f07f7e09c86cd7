import ArcdpsHealing.Settings.RoundTrip

namespace ArcdpsHealing.Settings

open Arcdps Lib JsonType

/-- Where there is a string at this key, `snprintf` does not stop in a character of it. -/
def Uncut (j : Json) (key : Text) (limit : Nat) : Prop :=
  ∀ s, j.find key = some (.string s) → Unsplit limit (s.takeWhile (· ≠ 0))

namespace JsonType

variable {n : Nat} {key : Text}

theorem validUtf8_cstring_iff {j : Json} (document : j.Valid) {result : FixedString (n + 1)}
    (valid : ValidUtf8 result.val) :
    ValidUtf8 (cstring.getJsonValue j key result).val ↔ Uncut j key n := by
  unfold getJsonValue Uncut
  cases found : j.find key with
  | none => exact iff_of_true valid (by simp)
  | some value =>
    cases value with
    | string s =>
      have read : ValidUtf8 s := Json.valid_of_find document found
      refine (read.takeWhile_ne_zero.take_iff n).trans ?_
      simp
    | null | boolean | integer | unsigned | float | array | object =>
      exact iff_of_true valid (by simp)

theorem valid_of_write {members : List Json.Member} (written : (Json.write members .null).Valid)
    (distinct : (members.map Json.Member.key).Nodup) {value default : FixedString (n + 1)}
    (k : Nat) (here : members[k]? = some (cstring.setJsonVal key value default))
    (valid : ValidUtf8 default.val) : ValidUtf8 value.val := by
  have found := Json.find_write members (j := .null) trivial distinct (List.mem_of_getElem? here)
  by_cases same : value = default
  · exact same ▸ valid
  · have differs : (cstring.setJsonVal key value default).differs = true := decide_eq_true same
    rw [if_pos differs] at found
    exact Json.valid_of_find written found

end JsonType

namespace HealWindowOptions

structure Uncut (j : Json) : Prop where
  includedSkills : Settings.Uncut j (utf8 "IncludedSkills") maxHealWindowIncludedSkills
  name : Settings.Uncut j (utf8 "Name") maxHealWindowName
  titleFormat : Settings.Uncut j (utf8 "TitleFormat") maxHealWindowTitle
  entryFormat : Settings.Uncut j (utf8 "EntryFormat") maxHealWindowEntry
  detailsEntryFormat : Settings.Uncut j (utf8 "DetailsEntryFormat") maxHealWindowEntry

variable {w d : HealWindowOptions}

theorem valid_fromJson_iff (valid : w.Valid) {j : Json} (document : j.Valid) :
    (w.fromJson j).Valid ↔ Uncut j := by
  constructor
  · intro loaded
    constructor
    case includedSkills => exact (validUtf8_cstring_iff document valid.1).mp loaded.1
    case name => exact (validUtf8_cstring_iff document valid.2).mp loaded.2
    case titleFormat => exact (validUtf8_cstring_iff document valid.3).mp loaded.3
    case entryFormat => exact (validUtf8_cstring_iff document valid.4).mp loaded.4
    case detailsEntryFormat => exact (validUtf8_cstring_iff document valid.5).mp loaded.5
  · intro uncut
    constructor
    case includedSkills => exact (validUtf8_cstring_iff document valid.1).mpr uncut.1
    case name => exact (validUtf8_cstring_iff document valid.2).mpr uncut.2
    case titleFormat => exact (validUtf8_cstring_iff document valid.3).mpr uncut.3
    case entryFormat => exact (validUtf8_cstring_iff document valid.4).mpr uncut.4
    case detailsEntryFormat => exact (validUtf8_cstring_iff document valid.5).mpr uncut.5

theorem valid_of_toJson (valid : d.Valid) (written : (w.toJson d).Valid) : w.Valid where
  includedSkills := valid_of_write written (w.distinct_members d) 13 rfl valid.includedSkills
  name := valid_of_write written (w.distinct_members d) 27 rfl valid.name
  titleFormat := valid_of_write written (w.distinct_members d) 28 rfl valid.titleFormat
  entryFormat := valid_of_write written (w.distinct_members d) 29 rfl valid.entryFormat
  detailsEntryFormat :=
    valid_of_write written (w.distinct_members d) 30 rfl valid.detailsEntryFormat

end HealWindowOptions

theorem valid_freshWindow (i : Fin healWindowCount) : (freshWindow i).Valid where
  includedSkills := by revert i; decide +kernel
  name := by revert i; decide +kernel
  titleFormat := by revert i; decide +kernel
  entryFormat := by revert i; decide +kernel
  detailsEntryFormat := by revert i; decide +kernel

namespace HealTableOptions

theorem valid_defaults : ({} : HealTableOptions).Valid where
  evtcRpcEndpoint := ((validUtf8_utf8 "evtc-rpc.kappa322.com").takeWhile_ne_zero.take_iff 127).mpr
    (by decide +kernel)
  windows := valid_freshWindow

/-- The document holds no text that is cut inside a character. -/
structure Uncut (j : Json) : Prop where
  evtcRpcEndpoint : Settings.Uncut j (utf8 "EvtcRpcEndpoint") 127
  windows : ∀ (i : Fin healWindowCount) (windows : Members) (window : Json),
    j.find (utf8 "Windows") = some (.object windows) →
      windows.find (Json.digits i) = some window → HealWindowOptions.Uncut window

variable {o : HealTableOptions} (valid : o.Valid) {j : Json} (document : j.Valid)

include valid document

theorem valid_windows_fromJson_iff (i : Fin healWindowCount) :
    ((o.fromJson j).windows i).Valid ↔ ∀ (windows : Members) (window : Json),
      j.find (utf8 "Windows") = some (.object windows) →
        windows.find (Json.digits i) = some window → HealWindowOptions.Uncut window := by
  simp only [fromJson]
  split
  case h_1 windows found =>
    split
    case h_1 window here =>
      have read : window.Valid := Members.valid_of_find (Json.valid_of_find document found) here
      rw [HealWindowOptions.valid_fromJson_iff (valid.windows i) read]
      constructor
      · intro uncut windows' window' found' here'
        cases found.symm.trans found'
        cases here.symm.trans here'
        exact uncut
      · intro uncut
        exact uncut windows window found here
    case h_2 absent =>
      refine iff_of_true (valid.windows i) ?_
      intro windows' window' found' here'
      cases found.symm.trans found'
      cases absent.symm.trans here'
  case h_2 absent =>
    refine iff_of_true (valid.windows i) ?_
    intro windows window found
    exact absurd found (absent windows)

theorem valid_fromJson_iff : (o.fromJson j).Valid ↔ Uncut j := by
  have endpoint : ValidUtf8 (o.fromJson j).evtcRpcEndpoint.val ↔
      Settings.Uncut j (utf8 "EvtcRpcEndpoint") 127 :=
    validUtf8_cstring_iff document valid.evtcRpcEndpoint
  constructor
  · intro loaded
    constructor
    case evtcRpcEndpoint => exact endpoint.mp loaded.evtcRpcEndpoint
    case windows =>
      intro i
      exact (valid_windows_fromJson_iff valid document i).mp (loaded.windows i)
  · intro uncut
    constructor
    case evtcRpcEndpoint => exact endpoint.mpr uncut.evtcRpcEndpoint
    case windows =>
      intro i
      exact (valid_windows_fromJson_iff valid document i).mpr (uncut.windows i)

omit valid document

theorem valid_toJson_iff : o.toJson.Valid ↔ o.Valid := by
  refine ⟨?_, valid_toJson⟩
  intro written
  constructor
  case evtcRpcEndpoint =>
    exact valid_of_write written (o.distinct_members {}) 6 rfl valid_defaults.evtcRpcEndpoint
  case windows =>
    intro i
    have found := o.find_windows
    have here := o.find_windowsToJson {} i
    by_cases all : o.windows = freshWindow
    · exact all ▸ valid_freshWindow i
    · rw [if_neg all] at found
      have windows : (o.windowsToJson {}).Valid := Json.valid_of_find written found
      by_cases same : o.windows i = freshWindow i
      · exact same ▸ valid_freshWindow i
      · rw [if_neg same] at here
        exact HealWindowOptions.valid_of_toJson (valid_freshWindow i)
          (Json.valid_of_find windows here)

/-- `Load` reads this document from the file. -/
structure Accepts (lib : JsonLibrary) (file : Text) (j : Json) : Prop where
  short : (file.take (bufferSize - 1)).length ≠ bufferSize - 1
  parsed : lib.parse ((file.take (bufferSize - 1)).takeWhile (· ≠ 0)) = some j

theorem Accepts.load_eq {lib : JsonLibrary} {file : Text} (accepted : Accepts lib file j)
    (o : HealTableOptions) : o.load lib file = o.fromJson j := by
  simp only [load, if_neg accepted.short, accepted.parsed]

/-- What is relied on of the library for the document that is loaded and the one that is to be
saved: only valid strings are read, and no others can be written. -/
structure Checked (lib : JsonLibrary) (loaded saved : Json) : Prop where
  parse : loaded.Valid
  dump : (∃ file, lib.dump saved = some file) ↔ saved.Valid

/-- Loaded settings can be saved again just where no text of the file was cut inside a
character. -/
theorem saves_again_iff (lib : JsonLibrary) (o : HealTableOptions) (valid : o.Valid) (file : Text)
    (j : Json) (accepted : Accepts lib file j)
    (checked : Checked lib j (o.load lib file).toJson) :
    ((o.load lib file).Valid ↔ Uncut j) ∧
      ((∃ saved, (o.load lib file).save lib = some saved) ↔ Uncut j) := by
  have fields : (o.load lib file).Valid ↔ Uncut j := by
    rw [accepted.load_eq]
    exact valid_fromJson_iff valid checked.parse
  exact ⟨fields, checked.dump.trans (valid_toJson_iff.trans fields)⟩

def named (name : Text) : Json :=
  .object (.cons (utf8 "Windows") (.object (.cons (Json.digits 0)
    (.object (.cons (utf8 "Name") (.string name) .nil)) .nil)) .nil)

theorem valid_named {name : Text} (valid : ValidUtf8 name) : (named name).Valid := by
  simp only [named, Json.Valid, Members.Valid, valid, and_true]
  decide +kernel

theorem uncut_named {name : Text} (short : name.length ≤ maxHealWindowName) :
    Uncut (named name) := by
  constructor
  case evtcRpcEndpoint =>
    have other : utf8 "Windows" ≠ utf8 "EvtcRpcEndpoint" := by decide +kernel
    intro s found
    simp [named, Json.find, Members.find, other] at found
  case windows =>
    intro i windows window found here
    simp only [named, Json.find, Members.find, if_true, Option.some.injEq, Json.object.injEq]
      at found
    subst found
    simp only [Members.find, Option.ite_none_right_eq_some, Option.some.injEq] at here
    obtain ⟨-, rfl⟩ := here
    have other {key : Text} {limit : Nat} (different : utf8 "Name" ≠ key) : Settings.Uncut
        (.object (.cons (utf8 "Name") (.string name) .nil)) key limit := by
      intro s found
      simp [Json.find, Members.find, different] at found
    constructor
    case includedSkills => exact other (by decide +kernel)
    case titleFormat => exact other (by decide +kernel)
    case entryFormat => exact other (by decide +kernel)
    case detailsEntryFormat => exact other (by decide +kernel)
    case name =>
      intro s found
      simp only [Json.find, Members.find, if_true, Option.some.injEq, Json.string.injEq] at found
      subst found
      exact unsplit_of_length_le ((List.takeWhile_prefix _).length_le.trans short)

theorem Checked.of_uncut {lib : JsonLibrary} {file : Text} (valid : o.Valid) (document : j.Valid)
    (uncut : Uncut j) (written : lib.dump (o.fromJson j).toJson = some file) :
    Checked lib j (o.fromJson j).toJson :=
  ⟨document, iff_of_true ⟨file, written⟩
    (valid_toJson ((valid_fromJson_iff valid document).mpr uncut))⟩

theorem saves_again_short :
    ∃ saved, (({} : HealTableOptions).load
      ⟨fun j => some j.text, fun _ => some (named (utf8 "é"))⟩ (named (utf8 "é")).text).save
        ⟨fun j => some j.text, fun _ => some (named (utf8 "é"))⟩ = some saved := by
  have uncut : Uncut (named (utf8 "é")) := uncut_named (by decide +kernel)
  have document : (named (utf8 "é")).Valid := valid_named (validUtf8_utf8 "é")
  have accepted : Accepts ⟨fun j => some j.text, fun _ => some (named (utf8 "é"))⟩
      (named (utf8 "é")).text (named (utf8 "é")) := ⟨by decide +kernel, rfl⟩
  refine (saves_again_iff _ {} valid_defaults _ _ accepted ?_).2.mpr uncut
  rw [accepted.load_eq]
  exact .of_uncut valid_defaults document uncut rfl

def accented : Text := utf8 "aaaaaaaaaaaaaaaaaaaaaaaaaaaaaaé"

theorem saves_again_fails :
    (named accented).Valid ∧ ¬ (({} : HealTableOptions).fromJson (named accented)).Valid ∧
      ¬ (({} : HealTableOptions).fromJson (named accented)).toJson.Valid := by
  have split : ¬ (({} : HealTableOptions).fromJson (named accented)).Valid := by
    intro valid
    have name := (valid.windows ⟨0, Nat.succ_pos _⟩).name
    revert name
    decide +kernel
  exact ⟨valid_named (validUtf8_utf8 _), split, valid_toJson_iff.not.mpr split⟩

end HealTableOptions

end ArcdpsHealing.Settings
