import Mathlib.Data.List.TakeWhile

namespace ArcdpsHealing.Lib

abbrev Text := List UInt8

abbrev encode (cs : List Char) : Text := cs.flatMap String.utf8EncodeChar

theorem encode_append (as bs : List Char) : encode (as ++ bs) = encode as ++ encode bs :=
  List.flatMap_append

theorem encode_cons (c : Char) (cs : List Char) :
    encode (c :: cs) = String.utf8EncodeChar c ++ encode cs :=
  List.flatMap_cons

def ValidUtf8 (s : Text) : Prop := ∃ cs : List Char, s = cs.flatMap String.utf8EncodeChar

def Unsplit (n : Nat) (s : Text) : Prop := ∀ b ∈ s[n]?, b.IsUTF8FirstByte

instance (n : Nat) (s : Text) : Decidable (Unsplit n s) :=
  inferInstanceAs (Decidable (∀ b ∈ s[n]?, b.IsUTF8FirstByte))

theorem unsplit_of_length_le {n : Nat} {s : Text} (short : s.length ≤ n) : Unsplit n s := by
  intro b here
  rw [List.getElem?_eq_none short] at here
  cases here

theorem utf8EncodeChar_eq_cons (c : Char) :
    ∃ b tail, String.utf8EncodeChar c = b :: tail ∧ b.IsUTF8FirstByte ∧
      ∀ t ∈ tail, ¬ t.IsUTF8FirstByte := by
  -- The first byte of a character is one that can be told from the others.
  have some : 0 < (String.utf8EncodeChar c).length := by
    rw [String.length_utf8EncodeChar]
    exact c.utf8Size_pos
  obtain ⟨b, tail, bytes⟩ := List.exists_cons_of_length_pos some
  have place (i : Nat) (h : i < (b :: tail).length) :
      (b :: tail)[i].IsUTF8FirstByte ↔ i = 0 := by
    simp only [← bytes]
    exact UInt8.isUTF8FirstByte_getElem_utf8EncodeChar
  refine ⟨b, tail, bytes, (place 0 (Nat.succ_pos _)).mpr rfl, fun t member first => ?_⟩
  obtain ⟨i, inside, here⟩ := List.getElem_of_mem member
  have again := (place (i + 1) (Nat.succ_lt_succ inside)).mp (by
    rw [List.getElem_cons_succ, here]
    exact first)
  exact absurd again (Nat.succ_ne_zero i)

theorem encode_ne_nil {cs : List Char} (some : cs ≠ []) : encode cs ≠ [] := by
  cases cs with
  | nil => exact absurd rfl some
  | cons c cs =>
    obtain ⟨b, tail, bytes, -⟩ := utf8EncodeChar_eq_cons c
    rw [encode_cons, bytes]
    exact List.cons_ne_nil _ _

theorem encode_take_eq_iff {cs : List Char} {k : Nat} :
    encode (cs.take k) = encode cs ↔ cs.length ≤ k := by
  constructor
  · intro same
    by_contra short
    have left : cs.drop k ≠ [] := fun none => short (List.drop_eq_nil_iff.mp none)
    have split : encode cs = encode (cs.take k) ++ encode (cs.drop k) := by
      rw [← encode_append, List.take_append_drop]
    rw [same] at split
    exact encode_ne_nil left (List.self_eq_append_right.mp split)
  · intro whole
    rw [List.take_of_length_le whole]

theorem length_le_length_encode (cs : List Char) : cs.length ≤ (encode cs).length := by
  induction cs with
  | nil => exact Nat.zero_le _
  | cons c cs ih =>
    have some := c.utf8Size_pos
    rw [encode_cons, List.length_append, String.length_utf8EncodeChar, List.length_cons,
      Nat.add_comm]
    exact Nat.add_le_add some ih

theorem isUTF8FirstByte_of_ascii {b : UInt8} (ascii : b < 128) : b.IsUTF8FirstByte := by
  have all : ∀ n < 128, (UInt8.ofNat n).IsUTF8FirstByte := by decide +kernel
  have first := all b.toNat ascii
  rwa [UInt8.ofNat_toNat] at first

theorem unsplit_of_ascii {n : Nat} {a t r : Text} (ascii : ∀ b ∈ t, b < 128)
    (low : a.length ≤ n) (high : n < a.length + t.length) : Unsplit n (a ++ t ++ r) := by
  intro b here
  have inside : n - a.length < t.length := by omega
  rw [List.append_assoc, List.getElem?_append_right low, List.getElem?_append_left inside] at here
  exact isUTF8FirstByte_of_ascii (ascii b (List.mem_of_getElem? here))

namespace ValidUtf8

theorem iff_isValidUTF8 (s : Text) : ValidUtf8 s ↔ s.toByteArray.IsValidUTF8 := by
  constructor
  · rintro ⟨cs, rfl⟩
    exact ⟨cs, rfl⟩
  · rintro ⟨cs, same⟩
    exact ⟨cs, List.toByteArray_inj.mp same⟩

instance (s : Text) : Decidable (ValidUtf8 s) := decidable_of_iff' _ (iff_isValidUTF8 s)

theorem toByteArray_take (n : Nat) (s : Text) :
    (s.take n).toByteArray = s.toByteArray.extract 0 n := by
  ext1
  simp

variable {s : Text}

theorem take_iff (valid : ValidUtf8 s) (n : Nat) : ValidUtf8 (s.take n) ↔ Unsplit n s := by
  rcases Nat.lt_or_ge n s.length with inside | short
  · -- The position as one of the string that the bytes are the encoding of.
    let whole : String := ⟨s.toByteArray, (iff_isValidUTF8 s).mp valid⟩
    let position : String.Pos.Raw := ⟨n⟩
    have size : whole.utf8ByteSize = s.length := List.size_toByteArray
    have before : position < whole.rawEndPos := by
      rw [String.Pos.Raw.lt_iff, String.byteIdx_rawEndPos, size]
      exact inside
    have byte : whole.getUTF8Byte position before = s[n] := List.getElem_toByteArray
    have cut : position.IsValid whole ↔ ValidUtf8 (s.take n) := by
      rw [iff_isValidUTF8, toByteArray_take, String.Pos.Raw.isValid_iff_isValidUTF8_extract_zero]
      exact and_iff_right (String.Pos.Raw.le_of_lt before)
    rw [← cut, String.Pos.Raw.isValid_iff_isUTF8FirstByte,
      or_iff_right (String.Pos.Raw.ne_of_lt before), exists_prop_of_true before, byte, Unsplit,
      List.getElem?_eq_getElem inside]
    simp
  · rw [List.take_of_length_le short]
    exact iff_of_true valid (unsplit_of_length_le short)

theorem toByteArray_append (a b : Text) :
    (a ++ b).toByteArray = a.toByteArray ++ b.toByteArray := by
  ext1
  simp

theorem append_iff {a b : Text} (valid : ValidUtf8 a) : ValidUtf8 (a ++ b) ↔ ValidUtf8 b := by
  obtain ⟨cs, rfl⟩ := valid
  induction cs with
  | nil => rfl
  | cons c cs ih =>
    have first : [c].utf8Encode = (String.utf8EncodeChar c).toByteArray :=
      List.utf8Encode_singleton
    rw [List.flatMap_cons, List.append_assoc, iff_isValidUTF8, toByteArray_append, ← first,
      ByteArray.isValidUTF8_utf8Encode_singleton_append_iff, ← iff_isValidUTF8, ih]

theorem of_ascii {s : Text} (ascii : ∀ b ∈ s, b < 128) : ValidUtf8 s := by
  induction s with
  | nil => exact ⟨[], rfl⟩
  | cons b s ih =>
    have one : ∀ n < 128, String.utf8EncodeChar (Char.ofNat n) = [UInt8.ofNat n] := by
      decide +kernel
    have byte := one b.toNat (ascii b (.head _))
    rw [UInt8.ofNat_toNat] at byte
    have valid : ValidUtf8 [b] := ⟨[Char.ofNat b.toNat], by simp [byte]⟩
    exact (append_iff valid).mpr (ih fun c member => ascii c (.tail _ member))

theorem takeWhile_ne_zero (valid : ValidUtf8 s) : ValidUtf8 (s.takeWhile (· ≠ 0)) := by
  rw [List.takeWhile_eq_take_findIdx_not, take_iff valid]
  intro b here
  have zero : b = 0 := by simpa using List.findIdx_of_getElem?_eq_some here
  subst zero
  decide

end ValidUtf8

end ArcdpsHealing.Lib
