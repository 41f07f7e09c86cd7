import Mathlib.Data.List.TakeWhile
import Mathlib.Data.UInt

namespace ArcdpsHealing.Lib

def isDigit (c : UInt8) : Bool := 48 ≤ c ∧ c ≤ 57

def number (digits : List UInt8) : Nat :=
  digits.foldl (fun value c => 10 * value + (c.toNat - 48)) 0

structure Denotes (limit : Nat) (s : List UInt8) (n : Nat) : Prop where
  nonempty : s ≠ []
  digits : ∀ c ∈ s, isDigit c = true
  value : number s = n
  fits : n < limit

inductive Errc
  | invalidArgument
  | resultOutOfRange
  deriving DecidableEq

structure FromCharsResult where
  ptr : Nat
  ec : Option Errc
  value : Option Nat

/-- `std::from_chars` for a type of the numbers below the limit, which knows no sign. -/
def fromChars (limit : Nat) (s : List UInt8) : FromCharsResult :=
  let digits := s.takeWhile isDigit
  if digits = [] then ⟨0, some .invalidArgument, none⟩
  else if number digits < limit then ⟨digits.length, none, some (number digits)⟩
  else ⟨digits.length, some .resultOutOfRange, none⟩

theorem number_append_digit (digits : List UInt8) (c : UInt8) :
    number (digits ++ [c]) = 10 * number digits + (c.toNat - 48) := by
  rw [number, List.foldl_append]
  rfl

section

variable {limit n : Nat} {s digits : List UInt8}

theorem Denotes.unique {m : Nat} (h : Denotes limit s n) (h' : Denotes limit s m) : n = m :=
  h.value.symm.trans h'.value

theorem fromChars_of_denotes (h : Denotes limit (s.takeWhile isDigit) n) :
    fromChars limit s = ⟨(s.takeWhile isDigit).length, none, some n⟩ := by
  obtain ⟨nonempty, -, rfl, fits⟩ := h
  rw [fromChars, if_neg nonempty, if_pos fits]

theorem fromChars_of_not_denotes (h : ¬ ∃ n, Denotes limit (s.takeWhile isDigit) n) :
    (fromChars limit s).ec ≠ none ∧ (fromChars limit s).value = none := by
  unfold fromChars
  by_cases empty : s.takeWhile isDigit = []
  · rw [if_pos empty]
    exact ⟨Option.some_ne_none _, rfl⟩
  · have long : ¬ number (s.takeWhile isDigit) < limit := fun fits =>
      h ⟨_, empty, fun c member => List.mem_takeWhile_imp member, rfl, fits⟩
    rw [if_neg empty, if_neg long]
    exact ⟨Option.some_ne_none _, rfl⟩

theorem takeWhile_of_denotes (h : Denotes limit s n) : s.takeWhile isDigit = s :=
  List.takeWhile_eq_self_iff.mpr h.digits

theorem fromChars_whole_iff :
    (fromChars limit s).ec = none ∧ (fromChars limit s).ptr = s.length ↔
      ∃ n, Denotes limit s n := by
  -- The caller sees by where it stopped whether all of the text is a number.
  constructor
  · rintro ⟨read, whole⟩
    by_cases here : ∃ n, Denotes limit (s.takeWhile isDigit) n
    · obtain ⟨n, denotes⟩ := here
      rw [fromChars_of_denotes denotes] at whole
      have all : s.takeWhile isDigit = s := (List.takeWhile_prefix _).eq_of_length whole
      exact ⟨n, all ▸ denotes⟩
    · exact absurd read (fromChars_of_not_denotes here).1
  · rintro ⟨n, denotes⟩
    have all := takeWhile_of_denotes denotes
    rw [fromChars_of_denotes (all.symm ▸ denotes), all]
    exact ⟨rfl, rfl⟩

end

end ArcdpsHealing.Lib
