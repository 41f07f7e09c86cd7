import Mathlib.Data.UInt
import Mathlib.Logic.Equiv.Defs

universe u v

namespace ArcdpsHealing.Lib

/-- A fixed-size byte layout: encoding and decoding are mutually inverse
between the values and the byte strings of that size. -/
structure Codec (α : Type u) where
  size : Nat
  encode : α → List UInt8
  decode : List UInt8 → α
  length_encode : ∀ a, (encode a).length = size
  decode_encode : ∀ a, decode (encode a) = a
  encode_decode : ∀ bs, bs.length = size → encode (decode bs) = bs

namespace Codec

variable {α : Type u} {β : Type v}

attribute [simp] length_encode decode_encode

def byte : Codec UInt8 where
  size := 1
  encode b := [b]
  decode bs := bs.headD 0
  length_encode _ := rfl
  decode_encode _ := rfl
  encode_decode bs h := by
    match bs, h with
    | [b], _ => rfl

def prod (c : Codec α) (d : Codec β) : Codec (α × β) where
  size := c.size + d.size
  encode p := c.encode p.1 ++ d.encode p.2
  decode bs := (c.decode (bs.take c.size), d.decode (bs.drop c.size))
  length_encode p := by simp
  decode_encode p := by
    have take : (c.encode p.1 ++ d.encode p.2).take c.size = c.encode p.1 := by
      rw [← c.length_encode p.1, List.take_left]
    have drop : (c.encode p.1 ++ d.encode p.2).drop c.size = d.encode p.2 := by
      rw [← c.length_encode p.1, List.drop_left]
    simp [take, drop]
  encode_decode bs h := by
    have ht : (bs.take c.size).length = c.size := by rw [List.length_take]; omega
    have hd : (bs.drop c.size).length = d.size := by rw [List.length_drop]; omega
    simp only [c.encode_decode _ ht, d.encode_decode _ hd]
    exact List.take_append_drop c.size bs

def iso (c : Codec α) (e : α ≃ β) : Codec β where
  size := c.size
  encode b := c.encode (e.symm b)
  decode bs := e (c.decode bs)
  length_encode b := c.length_encode (e.symm b)
  decode_encode b := by simp
  encode_decode bs h := by rw [e.symm_apply_apply, c.encode_decode bs h]

def halves16 : UInt8 × UInt8 ≃ UInt16 where
  toFun p := UInt16.ofNat (p.1.toNat + 256 * p.2.toNat)
  invFun w := (UInt8.ofNat (w.toNat % 256), UInt8.ofNat (w.toNat / 256))
  left_inv := by
    rintro ⟨a, b⟩
    have := a.toNat_lt
    have := b.toNat_lt
    apply Prod.ext <;> apply UInt8.toNat_inj.mp <;>
      simp only [UInt16.toNat_ofNat', UInt8.toNat_ofNat'] <;> omega
  right_inv := by
    intro w
    have := w.toNat_lt
    apply UInt16.toNat_inj.mp
    simp only [UInt16.toNat_ofNat', UInt8.toNat_ofNat']
    omega

def halves32 : UInt16 × UInt16 ≃ UInt32 where
  toFun p := UInt32.ofNat (p.1.toNat + 65536 * p.2.toNat)
  invFun w := (UInt16.ofNat (w.toNat % 65536), UInt16.ofNat (w.toNat / 65536))
  left_inv := by
    rintro ⟨a, b⟩
    have := a.toNat_lt
    have := b.toNat_lt
    apply Prod.ext <;> apply UInt16.toNat_inj.mp <;>
      simp only [UInt32.toNat_ofNat', UInt16.toNat_ofNat'] <;> omega
  right_inv := by
    intro w
    have := w.toNat_lt
    apply UInt32.toNat_inj.mp
    simp only [UInt32.toNat_ofNat', UInt16.toNat_ofNat']
    omega

def halves64 : UInt32 × UInt32 ≃ UInt64 where
  toFun p := UInt64.ofNat (p.1.toNat + 4294967296 * p.2.toNat)
  invFun w := (UInt32.ofNat (w.toNat % 4294967296), UInt32.ofNat (w.toNat / 4294967296))
  left_inv := by
    rintro ⟨a, b⟩
    have := a.toNat_lt
    have := b.toNat_lt
    apply Prod.ext <;> apply UInt32.toNat_inj.mp <;>
      simp only [UInt64.toNat_ofNat', UInt32.toNat_ofNat'] <;> omega
  right_inv := by
    intro w
    have := w.toNat_lt
    apply UInt64.toNat_inj.mp
    simp only [UInt64.toNat_ofNat', UInt32.toNat_ofNat']
    omega

def u16 : Codec UInt16 := (byte.prod byte).iso halves16
def u32 : Codec UInt32 := (u16.prod u16).iso halves32
def u64 : Codec UInt64 := (u32.prod u32).iso halves64

def i32 : Codec Int32 := u32.iso ⟨UInt32.toInt32, Int32.toUInt32, fun _ => rfl, fun _ => rfl⟩

@[simp] theorem size_byte : byte.size = 1 := rfl
@[simp] theorem size_u16 : u16.size = 2 := rfl
@[simp] theorem size_u32 : u32.size = 4 := rfl
@[simp] theorem size_u64 : u64.size = 8 := rfl
@[simp] theorem size_i32 : i32.size = 4 := rfl

@[simp] theorem size_prod (c : Codec α) (d : Codec β) : (c.prod d).size = c.size + d.size := rfl

theorem decode_take_append (c : Codec α) (a : α) (bs : List UInt8) :
    c.decode ((c.encode a ++ bs).take c.size) = a := by
  rw [← c.length_encode a, List.take_left, c.decode_encode]

theorem drop_append (c : Codec α) (a : α) (bs : List UInt8) :
    (c.encode a ++ bs).drop c.size = bs := by
  rw [← c.length_encode a, List.drop_left]

end Codec

end ArcdpsHealing.Lib
