import ArcdpsHealing.Lib.Memory
import Mathlib.Data.Nat.Bitwise
import Mathlib.Data.UInt

namespace ArcdpsHealing.Lib

abbrev Bits := UInt32 → UInt64

namespace Bits

def mask (id : UInt32) : UInt64 := 1 <<< (id % 64).toUInt64

def Mem (s : Bits) (id : UInt32) : Prop := s (id / 64) &&& mask id ≠ 0

instance (s : Bits) (id : UInt32) : Decidable (s.Mem id) := inferInstanceAs (Decidable (_ ≠ _))

def add (s : Bits) (id : UInt32) : Bits := fun word =>
  if word = id / 64 then s word ||| mask id else s word

theorem toNat_mask (id : UInt32) : (mask id).toNat = 2 ^ (id.toNat % 64) := by
  have low : id.toNat % 64 < 64 := Nat.mod_lt _ (by decide)
  have fits : 2 ^ (id.toNat % 64) < 2 ^ 64 := Nat.pow_lt_pow_right (by decide) low
  have shift : ((id % 64).toUInt64).toNat = id.toNat % 64 := by simp
  rw [mask, UInt64.toNat_shiftLeft, shift, Nat.mod_eq_of_lt low, UInt64.toNat_one,
    Nat.one_shiftLeft, Nat.mod_eq_of_lt fits]

theorem and_mask_ne_zero (word : UInt64) (id : UInt32) :
    word &&& mask id ≠ 0 ↔ word.toNat.testBit (id.toNat % 64) = true := by
  rw [ne_eq, ← UInt64.toNat_inj, UInt64.toNat_and, toNat_mask, Nat.and_two_pow]
  cases word.toNat.testBit (id.toNat % 64) <;> simp

theorem mem_iff_testBit {s : Bits} {id : UInt32} :
    s.Mem id ↔ (s (id / 64)).toNat.testBit (id.toNat % 64) = true :=
  and_mask_ne_zero _ id

theorem eq_of_place {id j : UInt32} (word : j / 64 = id / 64)
    (bit : j.toNat % 64 = id.toNat % 64) : j = id := by
  have quotient := congrArg UInt32.toNat word
  rw [UInt32.toNat_div, UInt32.toNat_div] at quotient
  change j.toNat / 64 = id.toNat / 64 at quotient
  apply UInt32.toNat_inj.mp
  omega

theorem mem_add {s : Bits} {id j : UInt32} : (s.add id).Mem j ↔ s.Mem j ∨ j = id := by
  rw [mem_iff_testBit, mem_iff_testBit, add]
  by_cases word : j / 64 = id / 64
  · rw [if_pos word, UInt64.toNat_or, toNat_mask, Nat.testBit_or, Nat.testBit_two_pow]
    rw [Bool.or_eq_true, decide_eq_true_eq]
    refine or_congr_right ⟨fun bit => eq_of_place word bit.symm, fun same => ?_⟩
    rw [same]
  · rw [if_neg word]
    refine (or_iff_left ?_).symm
    rintro rfl
    exact word rfl

theorem not_mem_zero (id : UInt32) : ¬ Mem (fun _ => 0) id := by
  rw [mem_iff_testBit]
  simp

theorem mem_foldl_add {ids : List UInt32} {s : Bits} {j : UInt32} :
    (ids.foldl add s).Mem j ↔ s.Mem j ∨ j ∈ ids := by
  induction ids generalizing s with
  | nil => simp
  | cons id ids ih => rw [List.foldl_cons, ih, mem_add, List.mem_cons, or_assoc]

end Bits

abbrev BitArray (n : Nat) := Vector UInt64 n

namespace BitArray

variable {n : Nat} (s : BitArray n)

def load (word : UInt32) : Except Fault UInt64 :=
  if h : word.toNat < n then .ok s[word.toNat] else .error .load

def fetchOr (word : UInt32) (bits : UInt64) : Except Fault (UInt64 × BitArray n) :=
  if h : word.toNat < n then
    .ok (s[word.toNat], s.set word.toNat (s[word.toNat] ||| bits))
  else .error .store

def toBits : Bits := fun word => s[word.toNat]?.getD 0

theorem load_eq {word : UInt32} (inside : word.toNat < n) : s.load word = .ok (s.toBits word) := by
  rw [load, dif_pos inside, toBits, Vector.getElem?_eq_getElem inside]
  rfl

theorem fetchOr_eq {id : UInt32} (inside : (id / 64).toNat < n) :
    ∃ s' : BitArray n, s.fetchOr (id / 64) (Bits.mask id) = .ok (s.toBits (id / 64), s') ∧
      s'.toBits = s.toBits.add id := by
  have here : s.toBits (id / 64) = s[(id / 64).toNat] := by
    rw [toBits, Vector.getElem?_eq_getElem inside]
    rfl
  refine ⟨s.set (id / 64).toNat (s[(id / 64).toNat] ||| Bits.mask id), ?_, ?_⟩
  · rw [fetchOr, dif_pos inside, here]
  · funext word
    rw [Bits.add, toBits, Vector.getElem?_set inside]
    by_cases same : word = id / 64
    · subst same
      rw [if_pos rfl, if_pos rfl, here]
      rfl
    · have other : (id / 64).toNat ≠ word.toNat := fun h => same (UInt32.toNat_inj.mp h).symm
      rw [if_neg other, if_neg same]
      rfl

@[simp] theorem toBits_zero : toBits (.replicate n 0) = fun _ => 0 := by
  funext word
  rw [toBits, Vector.getElem?_replicate]
  split <;> rfl

end BitArray

end ArcdpsHealing.Lib
