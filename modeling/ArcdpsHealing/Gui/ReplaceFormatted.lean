import ArcdpsHealing.Arcdps.Structs
import ArcdpsHealing.Lib.Memory
import Mathlib.Logic.Relation

namespace ArcdpsHealing.Gui

open Arcdps Lib Relation

variable {V : Type} (text : V → CString) (args : List (Option V))

/-- `pResultBuffer`, as a position in the whole buffer, and `pResultBufferLength`. -/
structure Output where
  buffer : List UInt8
  position : Nat
  length : Nat

/-- `snprintf` of the text of a value: how long it is, of which at most what fits
is written. -/
def snprintMagnitude (out : Output) (value : V) : Except Fault (List UInt8 × Nat) :=
  if out.length = 0 then .ok (out.buffer, (text value).length)
  else do
    let buffer ← store out.buffer out.position ((text value).take (out.length - 1) ++ [0])
    return (buffer, (text value).length)

/-- The argument that a digit stands for, if there is one and it has a value. -/
def argument (key : UInt8) : Option V := (args[(key - 49).toNat]?).join

def placeholder (format : List UInt8) (curChar : Nat) : Except Fault (Option V) := do
  let c ← load format curChar
  if c = 123 then
    let key ← load format (curChar + 1)
    if 49 ≤ key ∧ key ≤ 57 then
      let closeBrace ← load format (curChar + 2)
      if closeBrace = 125 then return argument args key else return none
    else return none
  else return none

/-- One round of the loop, and where it goes on. -/
def replaceNext (format : List UInt8) (curChar : Nat) (out : Output) :
    Except Fault (Output × Option Nat) := do
  let c ← load format curChar
  if c = 0 then return (out, none)
  else
    match ← placeholder args format curChar with
    | some value =>
      let (buffer, count) ← snprintMagnitude text out value
      if count ≥ out.length then return ({ out with buffer := buffer }, none)
      else return (⟨buffer, out.position + count, out.length - count⟩, some (curChar + 3))
    | none =>
      if out.length = 1 then return (out, none)
      else
        let buffer ← store out.buffer out.position [c]
        return (⟨buffer, out.position + 1, out.length - 1⟩, some (curChar + 1))

theorem replaceNext_advances {format : List UInt8} {curChar next : Nat} {out out' : Output}
    (h : replaceNext text args format curChar out = .ok (out', some next)) :
    curChar < next ∧ curChar < format.length := by
  obtain ⟨c, loaded, h⟩ := bind_ok h
  have inside := lt_length_of_load loaded
  refine ⟨?_, inside⟩
  split at h
  · cases h
  · obtain ⟨value, -, h⟩ := bind_ok h
    cases value with
    | some value =>
      obtain ⟨⟨buffer, count⟩, -, h⟩ := bind_ok h
      dsimp only at h
      split at h
      · cases h
      · cases h
        omega
    | none =>
      dsimp only at h
      split at h
      · cases h
      · obtain ⟨buffer, -, h⟩ := bind_ok h
        cases h
        omega

/-- The loop, which goes forward in the format string. -/
def replaceLoop (format : List UInt8) (curChar : Nat) (out : Output) : Except Fault Output :=
  match _h : replaceNext text args format curChar out with
  | .error fault => .error fault
  | .ok (out, none) => .ok out
  | .ok (out, some next) => replaceLoop format next out
termination_by format.length - curChar
decreasing_by
  have advances := replaceNext_advances text args _h
  omega

/-- The buffer, and how much of it is used without the terminator. -/
def replaceFormatted (buffer : List UInt8) (format : CString) :
    Except Fault (List UInt8 × Nat) := do
  let out ← replaceLoop text args (format ++ [0]) 0 ⟨buffer, 0, buffer.length⟩
  if out.length = 0 then throw .assertion
  else
    let buffer ← store out.buffer out.position [0]
    return (buffer, out.position)

inductive Item (V : Type)
  | value (v : V)
  | byte (c : UInt8)

def Item.expansion : Item V → CString
  | .value v => text v
  | .byte c => [c]

def leading : CString → Option V
  | 123 :: key :: 125 :: _ => if 49 ≤ key ∧ key ≤ 57 then argument args key else none
  | _ => none

def items : CString → List (Item V)
  | [] => []
  | c :: s =>
    match leading args (c :: s) with
    | some value => .value value :: items (s.drop 2)
    | none => .byte c :: items s
termination_by s => s.length
decreasing_by
  · rw [List.length_drop, List.length_cons]
    omega
  · exact Nat.lt_succ_self _

def shown (format : CString) (k : Nat) : CString :=
  ((items args format).take k).flatMap (Item.expansion text)

theorem length_shown_mono (format : CString) {k l : Nat} (le : k ≤ l) :
    (shown text args format k).length ≤ (shown text args format l).length := by
  have split := List.take_append_drop k ((items args format).take l)
  rw [List.take_take, Nat.min_eq_left le] at split
  rw [shown, shown, ← split, List.flatMap_append, List.length_append]
  exact Nat.le_add_right _ _

theorem shown_succ {format : CString} {k : Nat} {item : Item V} {rest : List (Item V)}
    (next : (items args format).drop k = item :: rest) :
    shown text args format (k + 1) = shown text args format k ++ item.expansion text := by
  have here : (items args format)[k]? = some item := by
    rw [← List.head?_drop, next]
    rfl
  rw [shown, List.take_add_one, here, List.flatMap_append]
  simp [shown]

theorem leading_of_ne {c : UInt8} (plain : c ≠ 123) (s : CString) :
    leading args (c :: s) = none := by
  unfold leading
  split
  · rename_i same
    cases same
    exact absurd rfl plain
  · rfl

theorem leading_of_not_closed {key closeBrace : UInt8} (plain : closeBrace ≠ 125) (s : CString) :
    leading args (123 :: key :: closeBrace :: s) = none := by
  unfold leading
  split
  · rename_i same
    cases same
    exact absurd rfl plain
  · rfl

theorem length_of_leading {s : CString} {value : V} (here : leading args s = some value) :
    3 ≤ s.length := by
  unfold leading at here
  split at here
  · simp
  · cases here

theorem placeholder_eq {format : CString} {curChar : Nat} (inside : curChar < format.length) :
    placeholder args (format ++ [0]) curChar = .ok (leading args (format.drop curChar)) := by
  -- The look-ahead stops at the terminator.
  have ahead (j : Nat) : load (format ++ [0]) (curChar + j) =
      load (format.drop curChar ++ [0]) j := by
    rw [load_add, List.drop_append_of_le_length (Nat.le_of_lt inside)]
  have first := ahead 0
  have second := ahead 1
  have third := ahead 2
  rw [Nat.add_zero] at first
  unfold placeholder
  rw [first, second, third]
  cases left : format.drop curChar with
  | nil =>
    have none := congrArg List.length left
    rw [List.length_drop, List.length_nil] at none
    omega
  | cons c s =>
    by_cases brace : c = 123
    · subst brace
      match s with
      | [] => rfl
      | [key] => simp [load, leading]
      | key :: closeBrace :: s =>
        by_cases digit : 49 ≤ key ∧ key ≤ 57
        · by_cases closed : closeBrace = 125
          · subst closed
            simp [load, leading, digit]
          · rw [leading_of_not_closed args closed]
            simp [load, closed]
        · have none : leading args (123 :: key :: closeBrace :: s) = none := by
            unfold leading
            split
            · rename_i same
              cases same
              exact if_neg digit
            · rfl
          rw [none]
          simp [load, digit]
    · rw [leading_of_ne args brace]
      simp [load, brace]

structure Replaced (format : CString) (n k curChar : Nat) (out : Output) : Prop where
  inside : curChar ≤ format.length
  counted : k ≤ (items args format).length
  rest : (items args format).drop k = items args (format.drop curChar)
  position : out.position = (shown text args format k).length
  room : out.position + out.length = n
  counter : 0 < out.length
  size : out.buffer.length = n
  shows : out.buffer.take out.position = shown text args format k

def Full (format : CString) (n k : Nat) : Prop :=
  k = (items args format).length ∨ n ≤ (shown text args format (k + 1)).length

section Replaced

variable {text args} {format : CString} {n k curChar : Nat} {out : Output}

theorem Replaced.start {buffer : List UInt8} (room : 0 < buffer.length) :
    Replaced text args format buffer.length 0 0 ⟨buffer, 0, buffer.length⟩ where
  inside := Nat.zero_le _
  counted := Nat.zero_le _
  rest := rfl
  position := rfl
  room := Nat.zero_add _
  counter := room
  size := rfl
  shows := rfl

theorem Replaced.rewritten (h : Replaced text args format n k curChar out) {buffer : List UInt8}
    (size : buffer.length = out.buffer.length)
    (same : buffer.take out.position = out.buffer.take out.position) :
    Replaced text args format n k curChar { out with buffer := buffer } where
  inside := h.inside
  counted := h.counted
  rest := h.rest
  position := h.position
  room := h.room
  counter := h.counter
  size := size.trans h.size
  shows := same.trans h.shows

theorem Replaced.next (h : Replaced text args format n k curChar out) {item : Item V}
    {rest : List (Item V)} {next : Nat} (inside : next ≤ format.length)
    (here : items args (format.drop curChar) = item :: rest)
    (there : items args (format.drop next) = rest) {buffer : List UInt8}
    (size : buffer.length = out.buffer.length)
    (fits : (item.expansion text).length < out.length)
    (stored : buffer.take (out.position + (item.expansion text).length) =
      out.buffer.take out.position ++ item.expansion text) :
    Replaced text args format n (k + 1) next
      ⟨buffer, out.position + (item.expansion text).length,
        out.length - (item.expansion text).length⟩ := by
  have drop := h.rest.trans here
  have succ := shown_succ text args drop
  have long := congrArg List.length drop
  rw [List.length_drop, List.length_cons] at long
  have room := h.room
  refine ⟨inside, by omega, ?_, ?_, ?_, ?_, size.trans h.size, ?_⟩
  · rw [there, ← List.tail_drop, drop]
    rfl
  · rw [succ, List.length_append, h.position]
  · dsimp only
    omega
  · dsimp only
    omega
  · rw [succ, ← h.shows]
    exact stored

theorem Replaced.full (h : Replaced text args format n k curChar out) {item : Item V}
    {rest : List (Item V)} (here : items args (format.drop curChar) = item :: rest)
    (long : out.length ≤ (item.expansion text).length) : Full text args format n k := by
  have room := h.room
  refine .inr ?_
  rw [shown_succ text args (h.rest.trans here), List.length_append, ← h.position]
  omega

theorem items_value {c : UInt8} {s : CString} {v : V} (here : leading args (c :: s) = some v) :
    items args (c :: s) = .value v :: items args (s.drop 2) := by
  rw [items, here]

theorem items_byte {c : UInt8} {s : CString} (plain : leading args (c :: s) = none) :
    items args (c :: s) = .byte c :: items args s := by
  rw [items, plain]

theorem replaceNext_cases (terminated : 0 ∉ format)
    (h : Replaced text args format n k curChar out) :
    (∃ out' next, replaceNext text args (format ++ [0]) curChar out = .ok (out', some next) ∧
        Replaced text args format n (k + 1) next out') ∨
      ∃ out', replaceNext text args (format ++ [0]) curChar out = .ok (out', none) ∧
        Replaced text args format n k curChar out' ∧ Full text args format n k := by
  -- A round replaces one item more, or ends because nothing is left or fits.
  have room := h.room
  have counter := h.counter
  have size := h.size
  cases left : format.drop curChar with
  | nil =>
    have ends := List.drop_eq_nil_iff.mp left
    have last : curChar = format.length := Nat.le_antisymm h.inside ends
    have loaded : load (format ++ [0]) curChar = .ok 0 := by simp [load, last]
    have none : (items args format).drop k = [] := by
      rw [h.rest, left, items]
    refine .inr ⟨out, ?_, h, .inl (Nat.le_antisymm h.counted (List.drop_eq_nil_iff.mp none))⟩
    simp [replaceNext, loaded]
  | cons c s =>
    have long := congrArg List.length left
    rw [List.length_drop, List.length_cons] at long
    have inside : curChar < format.length := by omega
    have here : format[curChar]? = some c := by rw [← List.head?_drop, left]; rfl
    have loaded : load (format ++ [0]) curChar = .ok c := by
      rw [load, List.getElem?_append_left inside, here]
    have goes : c ≠ 0 := fun zero => terminated (zero ▸ List.mem_of_getElem? here)
    have look := placeholder_eq args inside
    rw [left] at look
    cases found : leading args (c :: s) with
    | some v =>
      rw [found] at look
      have item := (congrArg (items args) left).trans (items_value found)
      have after : s.drop 2 = format.drop (curChar + 3) := by
        rw [← List.drop_drop, left]
        rfl
      have short := length_of_leading args found
      have bytes : out.position + ((text v).take (out.length - 1) ++ [0]).length ≤
          out.buffer.length := by
        rw [List.length_append, List.length_take, List.length_singleton]
        omega
      obtain ⟨buffer, stored, same, shows⟩ := exists_store bytes
      have printed : snprintMagnitude text out v = .ok (buffer, (text v).length) := by
        rw [snprintMagnitude, if_neg (Nat.ne_of_gt counter), stored]
        rfl
      by_cases long : (text v).length ≥ out.length
      · refine .inr ⟨{ out with buffer := buffer }, ?_, ?_, h.full item long⟩
        · simp [replaceNext, loaded, goes, look, printed, long]
        · exact h.rewritten same (take_of_take_store bytes shows)
      · have whole : (text v).take (out.length - 1) = text v := List.take_of_length_le (by omega)
        have printedWhole : buffer.take (out.position + (text v).length) =
            out.buffer.take out.position ++ text v := by
          rw [whole, List.length_append, List.length_singleton] at shows
          have front := congrArg (List.take (out.position + (text v).length)) shows
          rw [List.take_take, Nat.min_eq_left (by omega), ← List.append_assoc] at front
          rw [front]
          exact List.take_left' (by rw [List.length_append, List.length_take]; omega)
        refine .inl ⟨_, curChar + 3, ?_, h.next ?_ item (congrArg (items args) after.symm) same
          (Nat.lt_of_not_ge long) printedWhole⟩
        · simp [replaceNext, loaded, goes, look, printed, long, Item.expansion]
        · rw [List.length_cons] at short
          omega
    | none =>
      rw [found] at look
      have item := (congrArg (items args) left).trans (items_byte found)
      have after : s = format.drop (curChar + 1) := by
        rw [← List.drop_drop, left]
        rfl
      by_cases last : out.length = 1
      · refine .inr ⟨out, ?_, h, h.full item (Nat.le_of_eq last)⟩
        simp [replaceNext, loaded, look, last]
      · have bytes : out.position + [c].length ≤ out.buffer.length := by
          rw [List.length_singleton]
          omega
        obtain ⟨buffer, stored, same, shows⟩ := exists_store bytes
        refine .inl ⟨_, curChar + 1, ?_, h.next inside item (congrArg (items args) after.symm) same
          ?_ shows⟩
        · simp [replaceNext, loaded, goes, look, last, stored, Item.expansion]
        · change 1 < out.length
          omega

theorem replaceLoop_eq (terminated : 0 ∉ format) (h : Replaced text args format n k curChar out) :
    ∃ k' curChar' out', replaceLoop text args (format ++ [0]) curChar out = .ok out' ∧
      Replaced text args format n k' curChar' out' ∧ Full text args format n k' := by
  obtain ⟨left, enough⟩ : ∃ left, (items args format).length ≤ k + left :=
    ⟨(items args format).length, Nat.le_add_left _ _⟩
  induction left generalizing k curChar out with
  | zero =>
    rcases replaceNext_cases terminated h with ⟨out', next, _, more⟩ | ⟨out', ends, h', full⟩
    · have := more.counted
      omega
    · refine ⟨k, curChar, out', ?_, h', full⟩
      rw [replaceLoop, ends]
  | succ left ih =>
    rcases replaceNext_cases terminated h with ⟨out', next, goes, more⟩ | ⟨out', ends, h', full⟩
    · obtain ⟨k', curChar', last, loop, h', full⟩ := ih more (by omega)
      refine ⟨k', curChar', last, ?_, h', full⟩
      rw [replaceLoop, goes]
      exact loop
    · refine ⟨k, curChar, out', ?_, h', full⟩
      rw [replaceLoop, ends]

end Replaced

def Round (format : List UInt8) (a b : Nat × Output) : Prop :=
  replaceNext text args format a.1 a.2 = .ok (b.2, some b.1)

theorem replaced_of_rounds {format : CString} (terminated : 0 ∉ format) {n : Nat}
    {a b : Nat × Output} (start : ∃ k, Replaced text args format n k a.1 a.2)
    (rounds : ReflTransGen (Round text args (format ++ [0])) a b) :
    ∃ k, Replaced text args format n k b.1 b.2 := by
  induction rounds with
  | refl => exact start
  | tail _ round ih =>
    obtain ⟨k, h⟩ := ih
    rcases replaceNext_cases terminated h with ⟨out', next, goes, more⟩ | ⟨out', ends, _⟩
    · cases goes.symm.trans round
      exact ⟨k + 1, more⟩
    · cases ends.symm.trans round

theorem exists_replaceFormatted {format : CString} (terminated : 0 ∉ format)
    {buffer : List UInt8} (room : 0 < buffer.length) :
    ∃ buffer' k, k ≤ (items args format).length ∧
      replaceFormatted text args buffer format =
        .ok (buffer', (shown text args format k).length) ∧
      buffer'.length = buffer.length ∧
      buffer'.take ((shown text args format k).length + 1) = shown text args format k ++ [0] ∧
      (shown text args format k).length ≤ buffer.length - 1 ∧
      Full text args format buffer.length k := by
  have start : Replaced text args format buffer.length 0 0 ⟨buffer, 0, buffer.length⟩ :=
    .start room
  obtain ⟨k, curChar, out, loop, h, full⟩ := replaceLoop_eq terminated start
  have counter := h.counter
  have fits := h.room
  have size := h.size
  have bytes : out.position + [(0 : UInt8)].length ≤ out.buffer.length := by
    rw [List.length_singleton]
    omega
  obtain ⟨buffer', stored, same, shows⟩ := exists_store bytes
  rw [List.length_singleton, h.shows, h.position] at shows
  rw [h.position] at fits stored
  refine ⟨buffer', k, h.counted, ?_, same.trans size, shows, by omega, full⟩
  simp [replaceFormatted, loop, Nat.ne_of_gt counter, stored, h.position]

/-- The buffer receives what the longest prefix of the items that fits is
replaced by, and there is always room for the terminator. -/
theorem replaceFormatted_eq {format : CString} (terminated : 0 ∉ format) {buffer : List UInt8}
    (room : 0 < buffer.length) :
    (∃ buffer' k, k ≤ (items args format).length ∧
      replaceFormatted text args buffer format =
        .ok (buffer', (shown text args format k).length) ∧
      buffer'.length = buffer.length ∧
      buffer'.take ((shown text args format k).length + 1) = shown text args format k ++ [0] ∧
      (shown text args format k).length ≤ buffer.length - 1 ∧
      ∀ j ≤ (items args format).length,
        (shown text args format j).length ≤ buffer.length - 1 → j ≤ k) ∧
    ∀ curChar out,
      ReflTransGen (Round text args (format ++ [0])) (0, ⟨buffer, 0, buffer.length⟩)
        (curChar, out) → 0 < out.length := by
  have start : Replaced text args format buffer.length 0 0 ⟨buffer, 0, buffer.length⟩ :=
    .start room
  constructor
  · obtain ⟨buffer', k, counted, written, size, shows, fits, full⟩ :=
      exists_replaceFormatted text args terminated room
    refine ⟨buffer', k, counted, written, size, shows, fits, fun j inside short => ?_⟩
    rcases full with all | long
    · exact all ▸ inside
    · refine Nat.le_of_not_lt fun more => ?_
      have := length_shown_mono text args format (show k + 1 ≤ j from more)
      omega
  · intro curChar out rounds
    obtain ⟨k, h⟩ := replaced_of_rounds text args terminated ⟨0, start⟩ rounds
    exact h.counter

theorem replaceFormatted_eq_pair :
    ∃ buffer', replaceFormatted (List.replicate · 49) [some 2, none, some 1] [9, 9, 9]
        [123, 49, 125, 123, 51, 125] = .ok (buffer', 2) ∧
      buffer'.take 3 = [49, 49, 0] := by
  have two : items [some 2, none, some 1] [123, 49, 125, 123, 51, 125] =
      [.value 2, .value 1] := by
    simp [items, leading, argument]
  obtain ⟨buffer', k, inside, written, -, shows, fits, longest⟩ :=
    (replaceFormatted_eq (List.replicate · 49) [some 2, none, some 1]
      (by decide : (0 : UInt8) ∉ [123, 49, 125, 123, 51, 125])
      (by decide : 0 < [(9 : UInt8), 9, 9].length)).1
  unfold shown at written shows fits longest
  rw [two] at inside written shows fits longest
  have low : 1 ≤ k := longest 1 (by decide) (by decide)
  have high : k ≠ 2 := by
    rintro rfl
    exact absurd fits (by decide)
  have one : k = 1 := by
    have : k ≤ 2 := inside
    omega
  subst one
  exact ⟨buffer', written, shows⟩

end ArcdpsHealing.Gui
