import ArcdpsHealing.Gui.ReplaceFormatted
import ArcdpsHealing.Lib.Utf8
import ArcdpsHealing.Settings.State

namespace ArcdpsHealing.Gui

open Arcdps Lib Settings

variable {V : Type} (text : V → CString) (args : List (Option V))

/-- What the format string stands for, if nothing is truncated. -/
def expanded (format : CString) : CString := (items args format).flatMap (Item.expansion text)

variable {text args}

theorem expanded_cons_value {c : UInt8} {s : CString} {v : V}
    (here : leading args (c :: s) = some v) :
    expanded text args (c :: s) = text v ++ expanded text args (s.drop 2) := by
  rw [expanded, items_value here, List.flatMap_cons]
  rfl

theorem expanded_cons_byte {c : UInt8} {s : CString} (plain : leading args (c :: s) = none) :
    expanded text args (c :: s) = c :: expanded text args s := by
  rw [expanded, items_byte plain, List.flatMap_cons]
  rfl

theorem expanded_of_plain {format : CString} (plain : 123 ∉ format) :
    expanded text args format = format := by
  induction format with
  | nil => simp [expanded, items]
  | cons c s ih =>
    have other : c ≠ 123 := fun brace => plain (brace ▸ .head _)
    rw [expanded_cons_byte (leading_of_ne args other s), ih fun member => plain (.tail _ member)]

theorem eq_of_leading {s : CString} {v : V} (here : leading args s = some v) :
    ∃ key rest, s = 123 :: key :: 125 :: rest ∧ key < 128 := by
  unfold leading at here
  split at here
  · rename_i key rest
    split at here
    · rename_i digit
      exact ⟨key, rest, rfl, UInt8.lt_of_le_of_lt digit.2 (by decide)⟩
    · cases here
  · cases here

theorem validUtf8_append_expanded (ascii : ∀ v, ∀ b ∈ text v, b < 128) (format before : CString)
    (valid : ValidUtf8 (before ++ format)) : ValidUtf8 (before ++ expanded text args format) := by
  -- Replacing the placeholders of valid text leaves it valid. In between, the text so far may
  -- end inside a character.
  induction format using items.induct args generalizing before with
  | case1 => simpa [expanded, items] using valid
  | case2 c s v here ih =>
    obtain ⟨key, rest, bytes, digit⟩ := eq_of_leading here
    cases bytes
    have cut : Unsplit before.length (before ++ 123 :: key :: 125 :: rest) := by
      intro b here
      rw [List.getElem?_append_right (Nat.le_refl _), Nat.sub_self] at here
      cases here
      decide
    have front : ValidUtf8 before := by
      have taken := (valid.take_iff before.length).mpr cut
      rwa [List.take_left] at taken
    have placeholder : ValidUtf8 [123, key, 125] := by
      apply ValidUtf8.of_ascii
      simp [digit]
    have after : ValidUtf8 rest :=
      (ValidUtf8.append_iff placeholder).mp ((ValidUtf8.append_iff front).mp valid)
    rw [expanded_cons_value here, ValidUtf8.append_iff front,
      ValidUtf8.append_iff (.of_ascii (ascii v))]
    exact ih [] after
  | case3 c s plain ih =>
    have more := ih (before ++ [c]) (by simpa using valid)
    rw [expanded_cons_byte plain]
    simpa using more

theorem expanded_eq_append (format : CString) (k : Nat) :
    expanded text args format = shown text args format k ++
      ((items args format).drop k).flatMap (Item.expansion text) := by
  rw [expanded, shown, ← List.flatMap_append, List.take_append_drop]

theorem unsplit_shown_iff (ascii : ∀ v, ∀ b ∈ text v, b < 128) {format : CString} {n k : Nat}
    (room : 0 < n) (fits : (shown text args format k).length ≤ n - 1)
    (full : Full text args format n k) :
    Unsplit (shown text args format k).length (expanded text args format) ↔
      Unsplit (n - 1) (expanded text args format) := by
  -- Where the text ends, a character is cut just if it goes on behind the last byte that there
  -- is room for.
  have split : expanded text args format = shown text args format k ++
      ((items args format).drop k).flatMap (Item.expansion text) := expanded_eq_append format k
  cases left : (items args format).drop k with
  | nil =>
    rw [left, List.flatMap_nil, List.append_nil] at split
    rw [split]
    exact iff_of_true (unsplit_of_length_le (Nat.le_refl _)) (unsplit_of_length_le fits)
  | cons item rest =>
    have next := shown_succ text args left
    have long : n ≤ (shown text args format k).length + (item.expansion text).length := by
      rcases full with all | long
      · rw [all, List.drop_length] at left
        cases left
      · rwa [next, List.length_append] at long
    rw [left, List.flatMap_cons, ← List.append_assoc] at split
    cases item with
    | byte c =>
      have last : (shown text args format k).length = n - 1 := by
        change n ≤ _ + 1 at long
        omega
      rw [last]
    | value v =>
      change n ≤ _ + (text v).length at long
      have inside : n - 1 < (shown text args format k).length + (text v).length := by omega
      rw [split]
      exact iff_of_true
        (unsplit_of_ascii (ascii v) (Nat.le_refl _) (Nat.lt_of_le_of_lt fits inside))
        (unsplit_of_ascii (ascii v) fits inside)

theorem validUtf8_shown_iff (ascii : ∀ v, ∀ b ∈ text v, b < 128) {format : CString} {n k : Nat}
    (valid : ValidUtf8 format) (room : 0 < n)
    (fits : (shown text args format k).length ≤ n - 1) (full : Full text args format n k) :
    ValidUtf8 (shown text args format k) ↔ Unsplit (n - 1) (expanded text args format) := by
  have whole : ValidUtf8 (expanded text args format) :=
    validUtf8_append_expanded ascii format [] valid
  have cut := whole.take_iff (shown text args format k).length
  rw [expanded_eq_append format k, List.take_left, ← expanded_eq_append format k] at cut
  exact cut.trans (unsplit_shown_iff ascii room fits full)

theorem take_of_terminated {buffer s : List UInt8}
    (shows : buffer.take (s.length + 1) = s ++ [0]) : buffer.take s.length = s := by
  have front := congrArg (List.take s.length) shows
  rwa [List.take_take, Nat.min_eq_left (Nat.le_succ _), List.take_left] at front

variable (text args)

/-- The text is valid just where no character of what the format string stands for
begins in the space before the terminator and ends behind it. -/
theorem replaceFormatted_valid_iff (ascii : ∀ v, ∀ b ∈ text v, b < 128) {format : CString}
    (terminated : 0 ∉ format) (valid : ValidUtf8 format) {buffer : List UInt8}
    (room : 0 < buffer.length) :
    ∃ buffer' count, replaceFormatted text args buffer format = .ok (buffer', count) ∧
      (ValidUtf8 (buffer'.take count) ↔
        Unsplit (buffer.length - 1) (expanded text args format)) := by
  obtain ⟨buffer', k, -, written, -, shows, fits, full⟩ :=
    exists_replaceFormatted text args terminated room
  refine ⟨buffer', _, written, ?_⟩
  rw [take_of_terminated shows]
  exact validUtf8_shown_iff ascii valid room fits full

theorem replaceFormatted_valid_iff_short :
    ∃ buffer' count, replaceFormatted (fun _ : Unit => utf8 "1234") [] [9, 9, 9] (encode ['é']) =
        .ok (buffer', count) ∧ ValidUtf8 (buffer'.take count) := by
  obtain ⟨buffer', count, written, iff⟩ :=
    replaceFormatted_valid_iff (fun _ : Unit => utf8 "1234") [] (by decide +kernel)
      (by decide : (0 : UInt8) ∉ encode ['é']) ⟨['é'], rfl⟩
      (by decide : 0 < [(9 : UInt8), 9, 9].length)
  have whole : expanded (fun _ : Unit => utf8 "1234") [] (encode ['é']) = encode ['é'] :=
    expanded_of_plain (by decide)
  refine ⟨buffer', count, written, iff.mpr ?_⟩
  rw [whole]
  decide +kernel

/-- A title as long as there is room for, of which one character is cut. -/
theorem replaceFormatted_cuts :
    let format := encode ['{', '1', '}'] ++ encode (List.replicate 62 'é')
    format.length = 127 ∧ 0 ∉ format ∧ ValidUtf8 format ∧
      ∃ buffer' count, replaceFormatted (fun _ => utf8 "1234") [some ()] (List.replicate 128 0)
          format = .ok (buffer', count) ∧ ¬ ValidUtf8 (buffer'.take count) := by
  intro format
  have ascii : ∀ _v : Unit, ∀ b ∈ utf8 "1234", b < 128 := by decide +kernel
  have valid : ValidUtf8 format :=
    ⟨['{', '1', '}'] ++ List.replicate 62 'é', (encode_append _ _).symm⟩
  have room : 0 < (List.replicate 128 (0 : UInt8)).length := by simp
  have terminated : 0 ∉ format := by decide +kernel
  have whole : expanded (fun _ => utf8 "1234") [some ()] format =
      utf8 "1234" ++ encode (List.replicate 62 'é') := by
    have plain : 123 ∉ encode (List.replicate 62 'é') := by decide +kernel
    have value : leading [some ()] format = some () := rfl
    exact (expanded_cons_value value).trans (congrArg (utf8 "1234" ++ ·) (expanded_of_plain plain))
  obtain ⟨buffer', k, -, written, -, shows, fits, full⟩ :=
    exists_replaceFormatted (fun _ => utf8 "1234") [some ()] terminated room
  refine ⟨by decide +kernel, terminated, valid, buffer', _, written, fun kept => ?_⟩
  rw [take_of_terminated shows] at kept
  have cut := (validUtf8_shown_iff ascii valid room fits full).mp kept
  rw [whole] at cut
  revert cut
  decide +kernel

end ArcdpsHealing.Gui
