import ArcdpsHealing.Lib.Utf8
import ArcdpsHealing.Settings.State
import Mathlib.Data.UInt

namespace ArcdpsHealing.Gui

open Arcdps Lib Settings

/-- `U8_FWD_N(s, i, length, n)` as a function of its arguments, which returns what
it leaves in `i`. -/
abbrev U8FwdN := Text → Int32 → Int32 → Int32 → Int32

/-- Between characters of valid text, it goes forward by `n` of them or to the end. -/
def GoesForward (u8FwdN : U8FwdN) : Prop :=
  ∀ (as bs : List Char) (n : Int32), (encode (as ++ bs)).length < 2 ^ 31 →
    u8FwdN (encode (as ++ bs)) (.ofNat (encode as).length)
        (.ofNat (encode (as ++ bs)).length) n =
      .ofNat (encode (as ++ bs.take n.toNatClampNeg)).length

/-- `static_cast<int>` of the number of characters. -/
def narrowed (characterCount : UInt64) : Int32 := characterCount.toUInt32.toInt32

def utf8Substr (u8FwdN : U8FwdN) (str : Text) (characterCount : UInt64) : Text :=
  let length := Int32.ofNat str.length
  let bytesToSkip := u8FwdN str 0 length (narrowed characterCount)
  str.take bytesToSkip.toInt64.toUInt64.toNat

theorem toNat_toInt64_ofNat {n : Nat} (low : n < 2 ^ 31) :
    (Int32.ofNat n).toInt64.toUInt64.toNat = n := by
  have value : (Int32.ofNat n).toInt64.toInt = n := by
    rw [Int32.toInt_toInt64, ← Int32.ofInt_eq_ofNat,
      Int32.toInt_ofInt_of_le (by omega) (by omega)]
  have nonnegative : 0 ≤ (Int32.ofNat n).toInt64 := by
    rw [Int64.le_iff_toInt_le, value]
    exact Int.natCast_nonneg n
  rw [Int64.toNat_toUInt64_of_le nonnegative, ← Int64.toNat_toInt, value, Int.toNat_natCast]

theorem toNatClampNeg_narrowed {characterCount : UInt64} (low : characterCount.toNat < 2 ^ 31) :
    (narrowed characterCount).toNatClampNeg = characterCount.toNat := by
  have same : narrowed characterCount = .ofNat characterCount.toNat := by
    apply Int32.toBitVec_inj.mp
    apply BitVec.eq_of_toNat_eq
    simp [narrowed]
  rw [same, Int32.toNatClampNeg_ofNat_of_lt low]

variable {u8FwdN : U8FwdN} (goes : GoesForward u8FwdN)

include goes in
theorem utf8Substr_eq {cs : List Char} (short : (encode cs).length < 2 ^ 31)
    (characterCount : UInt64) :
    utf8Substr u8FwdN (encode cs) characterCount =
      encode (cs.take (narrowed characterCount).toNatClampNeg) := by
  have left := goes [] cs (narrowed characterCount) short
  rw [List.nil_append, List.nil_append] at left
  have split : encode cs = encode (cs.take (narrowed characterCount).toNatClampNeg) ++
      encode (cs.drop (narrowed characterCount).toNatClampNeg) := by
    rw [← encode_append, List.take_append_drop]
  have inside := congrArg List.length split
  rw [List.length_append] at inside
  change (encode cs).take (u8FwdN (encode cs) (.ofNat (encode []).length) (.ofNat _)
    (narrowed characterCount)).toInt64.toUInt64.toNat = _
  rw [left, toNat_toInt64_ofNat (by omega), split, List.take_left]

/-- No character is cut, and there are as many as asked for just where the narrowing
does not get in the way. -/
theorem utf8Substr_iff (u8FwdN : U8FwdN) (goes : GoesForward u8FwdN) (cs : List Char)
    (short : (encode cs).length < 2 ^ 31) (characterCount : UInt64) :
    (∃ k ≤ cs.length, utf8Substr u8FwdN (encode cs) characterCount = encode (cs.take k)) ∧
      (utf8Substr u8FwdN (encode cs) characterCount =
          encode (cs.take (min characterCount.toNat cs.length)) ↔
        characterCount.toNat < 2 ^ 31 ∨
          cs.length ≤ (narrowed characterCount).toNatClampNeg) := by
  rw [utf8Substr_eq goes short]
  refine ⟨⟨_, Nat.min_le_right (narrowed characterCount).toNatClampNeg _, ?_⟩, ?_⟩
  · rw [← List.take_eq_take_min]
  rw [← List.take_eq_take_min]
  rcases Nat.lt_or_ge characterCount.toNat (2 ^ 31) with low | high
  · rw [toNatClampNeg_narrowed low]
    exact iff_of_true rfl (.inl low)
  · have few := length_le_length_encode cs
    rw [List.take_of_length_le (i := characterCount.toNat) (by omega), encode_take_eq_iff,
      or_iff_right (Nat.not_lt.mpr high)]

section Forward

def u8Fwd1 (s : Text) (i : Nat) : Nat :=
  i + 1 + ((s.drop (i + 1)).takeWhile fun b => ¬ b.IsUTF8FirstByte).length

def u8Fwd (s : Text) (length : Nat) : Nat → Nat → Nat
  | 0, i => i
  | n + 1, i => if i < length then u8Fwd s length n (u8Fwd1 s i) else i

def u8FwdChars : U8FwdN := fun s i length n =>
  .ofNat (u8Fwd s length.toNatClampNeg n.toNatClampNeg i.toNatClampNeg)

theorem takeWhile_encode (bs : List Char) :
    ((encode bs).takeWhile fun b => ¬ b.IsUTF8FirstByte) = [] := by
  cases bs with
  | nil => rfl
  | cons c bs =>
    obtain ⟨b, tail, bytes, first, -⟩ := utf8EncodeChar_eq_cons c
    rw [encode_cons, bytes, List.cons_append,
      List.takeWhile_cons_of_neg (by simpa using first)]

theorem u8Fwd1_eq (as bs : List Char) (c : Char) :
    u8Fwd1 (encode (as ++ c :: bs)) (encode as).length = (encode (as ++ [c])).length := by
  obtain ⟨b, tail, bytes, -, others⟩ := utf8EncodeChar_eq_cons c
  have text : encode (as ++ c :: bs) = encode as ++ b :: (tail ++ encode bs) := by
    rw [encode_append, encode_cons, bytes, List.cons_append]
  have ahead : (encode (as ++ c :: bs)).drop ((encode as).length + 1) = tail ++ encode bs := by
    rw [text, ← List.drop_drop, List.drop_left]
    rfl
  have skipped : ∀ t ∈ tail, decide (¬ t.IsUTF8FirstByte) = true :=
    fun t member => decide_eq_true (others t member)
  have last : encode [c] = b :: tail := by
    rw [encode_cons, bytes]
    exact List.append_nil _
  rw [u8Fwd1, ahead, List.takeWhile_append_of_pos skipped, takeWhile_encode, List.append_nil,
    encode_append, last, List.length_append, List.length_cons, Nat.add_assoc, Nat.add_comm 1]

theorem u8Fwd_eq (as bs : List Char) (n : Nat) :
    u8Fwd (encode (as ++ bs)) (encode (as ++ bs)).length n (encode as).length =
      (encode (as ++ bs.take n)).length := by
  induction n generalizing as bs with
  | zero => simp [u8Fwd]
  | succ n ih =>
    cases bs with
    | nil => simp [u8Fwd]
    | cons c bs =>
      have more : (encode as).length < (encode (as ++ c :: bs)).length := by
        have some := length_le_length_encode (c :: bs)
        rw [List.length_cons] at some
        rw [encode_append, List.length_append]
        exact Nat.lt_add_of_pos_right (Nat.lt_of_lt_of_le (Nat.succ_pos _) some)
      rw [u8Fwd, if_pos more, u8Fwd1_eq]
      have rest := ih (as ++ [c]) bs
      rw [List.append_assoc, List.append_assoc] at rest
      exact rest

theorem goesForward_u8FwdChars : GoesForward u8FwdChars := by
  intro as bs n short
  have inside : (encode as).length ≤ (encode (as ++ bs)).length := by
    rw [encode_append, List.length_append]
    exact Nat.le_add_right _ _
  rw [u8FwdChars, Int32.toNatClampNeg_ofNat_of_lt short,
    Int32.toNatClampNeg_ofNat_of_lt (by omega), u8Fwd_eq]

end Forward

theorem utf8Substr_iff_two :
    utf8Substr u8FwdChars (encode ['a', 'é', 'b']) 2 = encode ['a', 'é'] :=
  (utf8Substr_iff u8FwdChars goesForward_u8FwdChars ['a', 'é', 'b'] (by decide) 2).2.mpr
    (.inl (by decide))

/-- As an `int`, this many characters are less than none. -/
theorem utf8Substr_negative :
    GoesForward u8FwdChars ∧ utf8Substr u8FwdChars (encode ['a', 'b', 'c']) (2 ^ 31) = [] ∧
      utf8Substr u8FwdChars (encode ['a', 'b', 'c']) (2 ^ 31) ≠
        encode (['a', 'b', 'c'].take (min (2 ^ 31 : UInt64).toNat 3)) := by
  refine ⟨goesForward_u8FwdChars, by decide, by decide⟩

end ArcdpsHealing.Gui
