import Mathlib.Data.List.Basic

namespace ArcdpsHealing.Lib

inductive Fault
  | load
  | store
  | assertion
  deriving DecidableEq

@[simp] theorem ok_bind {α β : Type} (a : α) (f : α → Except Fault β) :
    (Except.ok a >>= f) = f a :=
  rfl

@[simp] theorem pure_eq_ok {α : Type} (a : α) : (pure a : Except Fault α) = .ok a := rfl

theorem bind_ok {α β : Type} {x : Except Fault α} {f : α → Except Fault β} {b : β}
    (h : (x >>= f) = .ok b) : ∃ a, x = .ok a ∧ f a = .ok b := by
  cases x with
  | error fault => cases h
  | ok a => exact ⟨a, rfl, h⟩

def load (memory : List UInt8) (i : Nat) : Except Fault UInt8 :=
  match memory[i]? with
  | some b => .ok b
  | none => .error .load

def loadRange (memory : List UInt8) (i size : Nat) : Except Fault (List UInt8) :=
  if i + size ≤ memory.length then .ok ((memory.drop i).take size) else .error .load

def store (memory : List UInt8) (i : Nat) (bytes : List UInt8) : Except Fault (List UInt8) :=
  if i + bytes.length ≤ memory.length then
    .ok (memory.take i ++ bytes ++ memory.drop (i + bytes.length))
  else .error .store

theorem load_add (memory : List UInt8) (i j : Nat) :
    load memory (i + j) = load (memory.drop i) j := by
  rw [load, load, List.getElem?_drop]

theorem lt_length_of_load {memory : List UInt8} {i : Nat} {b : UInt8}
    (loaded : load memory i = .ok b) : i < memory.length := by
  unfold load at loaded
  split at loaded
  · rename_i here
    exact (List.getElem?_eq_some_iff.mp here).1
  · cases loaded

theorem exists_store {memory bytes : List UInt8} {i : Nat}
    (inside : i + bytes.length ≤ memory.length) :
    ∃ memory', store memory i bytes = .ok memory' ∧ memory'.length = memory.length ∧
      memory'.take (i + bytes.length) = memory.take i ++ bytes := by
  have front : (memory.take i ++ bytes).length = i + bytes.length := by
    rw [List.length_append, List.length_take, Nat.min_eq_left (by omega)]
  refine ⟨_, if_pos inside, ?_, ?_⟩
  · rw [List.length_append, front, List.length_drop]
    omega
  · rw [← front]
    exact List.take_left

theorem take_of_take_store {memory memory' bytes : List UInt8} {i : Nat}
    (inside : i + bytes.length ≤ memory.length)
    (stored : memory'.take (i + bytes.length) = memory.take i ++ bytes) :
    memory'.take i = memory.take i := by
  have front := congrArg (List.take i) stored
  rw [List.take_take, Nat.min_eq_left (Nat.le_add_right _ _)] at front
  rw [front]
  exact List.take_left' (by rw [List.length_take, Nat.min_eq_left (by omega)])

theorem store_ok {memory memory' bytes : List UInt8} {i : Nat}
    (stored : store memory i bytes = .ok memory') :
    i + bytes.length ≤ memory.length ∧ memory'.length = memory.length ∧
      memory'.take (i + bytes.length) = memory.take i ++ bytes := by
  by_cases inside : i + bytes.length ≤ memory.length
  · obtain ⟨m, stored', size, front⟩ := exists_store inside
    cases stored.symm.trans stored'
    exact ⟨inside, size, front⟩
  · rw [store, if_neg inside] at stored
    cases stored

theorem loadRange_isOk_iff {memory : List UInt8} {i size : Nat} :
    (∃ bytes, loadRange memory i size = .ok bytes) ↔ i + size ≤ memory.length := by
  unfold loadRange
  constructor
  · rintro ⟨bytes, loaded⟩
    by_contra outside
    rw [if_neg outside] at loaded
    cases loaded
  · exact fun inside => ⟨_, if_pos inside⟩

theorem loadRange_middle {a m b : List UInt8} {i size : Nat} (low : a.length ≤ i)
    (high : i + size ≤ a.length + m.length) :
    loadRange (a ++ m ++ b) i size = loadRange m (i - a.length) size := by
  have inside : i + size ≤ (a ++ m ++ b).length := by
    simp only [List.length_append]
    omega
  rw [loadRange, loadRange, if_pos inside, if_pos (by omega), List.append_assoc,
    List.drop_append, List.drop_eq_nil_of_le low, List.nil_append,
    List.drop_append_of_le_length (by omega),
    List.take_append_of_le_length (by rw [List.length_drop]; omega)]

theorem loadRange_append (a bytes b : List UInt8) :
    loadRange (a ++ bytes ++ b) a.length bytes.length = .ok bytes := by
  rw [loadRange_middle (Nat.le_refl _) (Nat.le_refl _), Nat.sub_self, loadRange,
    if_pos (Nat.le_of_eq (Nat.zero_add _)), List.drop_zero, List.take_length]

theorem loadRange_of_take_eq {memory memory' : List UInt8} {i size n : Nat}
    (same : memory'.take n = memory.take n) (length : memory'.length = memory.length)
    (before : i + size ≤ n) : loadRange memory' i size = loadRange memory i size := by
  have front := congrArg (List.take (i + size)) same
  rw [List.take_take, List.take_take, Nat.min_eq_left before] at front
  rw [loadRange, loadRange, length, List.take_drop, List.take_drop, front]

theorem loadRange_store {memory memory' bytes : List UInt8} {i : Nat}
    (stored : store memory i bytes = .ok memory') :
    loadRange memory' i bytes.length = .ok bytes := by
  obtain ⟨inside, -, front⟩ := store_ok stored
  have low : (memory.take i).length = i := by
    rw [List.length_take, Nat.min_eq_left (by omega)]
  have split := List.take_append_drop (i + bytes.length) memory'
  have loaded := loadRange_append (memory.take i) bytes (memory'.drop (i + bytes.length))
  rwa [← front, split, low] at loaded

theorem loadRange_store_of_le {memory memory' bytes : List UInt8} {i j size : Nat}
    (stored : store memory i bytes = .ok memory') (before : j + size ≤ i) :
    loadRange memory' j size = loadRange memory j size := by
  obtain ⟨inside, length, front⟩ := store_ok stored
  exact loadRange_of_take_eq (take_of_take_store inside front) length before

end ArcdpsHealing.Lib
