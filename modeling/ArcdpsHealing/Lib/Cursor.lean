import ArcdpsHealing.Lib.Codec

universe u

namespace ArcdpsHealing.Lib

def bytes (memory : Nat → UInt8) (start size : Nat) : List UInt8 :=
  (List.range' start size).map memory

@[simp] theorem length_bytes (memory : Nat → UInt8) (start size : Nat) :
    (bytes memory start size).length = size := by
  simp [bytes]

theorem bytes_add (memory : Nat → UInt8) (start m n : Nat) :
    bytes memory start (m + n) = bytes memory start m ++ bytes memory (start + m) n := by
  simp [bytes, ← List.range'_append_1]

structure Cursor where
  data : Nat
  left : Nat
  touched : List (Nat × Nat)

namespace Cursor

variable {α : Type u} (memory : Nat → UInt8) (c : Cursor) {size stop : Nat}

def rest : List UInt8 := bytes memory c.data c.left

def peek (size : Nat) : List UInt8 := bytes memory c.data size

def skip (size : Nat) : Cursor where
  data := c.data + size
  left := c.left - size
  touched := (c.data, size) :: c.touched

def read (codec : Codec α) : α × Cursor :=
  (codec.decode (c.peek memory codec.size), c.skip codec.size)

structure Within (stop : Nat) (c : Cursor) : Prop where
  stops : c.data + c.left = stop
  touched : ∀ access ∈ c.touched, access.1 + access.2 ≤ stop

variable {c}

theorem Within.start (stop : Nat) : Within stop { data := 0, left := stop, touched := [] } where
  stops := Nat.zero_add stop
  touched access member := by cases member

theorem Within.skip (h : Within stop c) (enough : size ≤ c.left) :
    Within stop (c.skip size) where
  stops := by
    have := h.stops
    simp only [Cursor.skip]
    omega
  touched access member := by
    have := h.stops
    cases member with
    | head => simp only; omega
    | tail _ member => exact h.touched access member

theorem rest_eq (enough : size ≤ c.left) :
    c.rest memory = c.peek memory size ++ (c.skip size).rest memory := by
  have split : c.left = size + (c.left - size) := by omega
  calc bytes memory c.data c.left
      = bytes memory c.data (size + (c.left - size)) := by rw [← split]
    _ = _ := bytes_add memory c.data size (c.left - size)

theorem take_rest (enough : size ≤ c.left) :
    (c.rest memory).take size = c.peek memory size := by
  rw [rest_eq memory enough]
  exact List.take_left' (length_bytes memory c.data size)

theorem drop_rest (enough : size ≤ c.left) :
    (c.rest memory).drop size = (c.skip size).rest memory := by
  rw [rest_eq memory enough]
  exact List.drop_left' (length_bytes memory c.data size)

@[simp] theorem length_rest : (c.rest memory).length = c.left := length_bytes memory c.data c.left

@[simp] theorem left_skip : (c.skip size).left = c.left - size := rfl

end Cursor

end ArcdpsHealing.Lib
