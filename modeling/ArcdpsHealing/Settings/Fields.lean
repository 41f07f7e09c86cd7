import ArcdpsHealing.Lib.Json
import ArcdpsHealing.Settings.State
import Mathlib.Data.List.TakeWhile

namespace ArcdpsHealing.Settings

open Arcdps Lib

theorem validUtf8_utf8 (s : String) : ValidUtf8 (utf8 s) := ⟨s.toList, rfl⟩

/-- `snprintf` of a string into an array of `n + 1` bytes. -/
def FixedString.copy {n : Nat} (s : Text) : FixedString (n + 1) :=
  ⟨(s.takeWhile (· ≠ 0)).take n, by
    rw [List.length_take]
    omega, fun zero => by
    simpa using List.mem_takeWhile_imp (List.mem_of_mem_take zero)⟩

theorem FixedString.copy_val {n : Nat} (s : FixedString (n + 1)) : FixedString.copy s.val = s := by
  obtain ⟨s, short, whole⟩ := s
  apply Subtype.ext
  change (s.takeWhile (· ≠ 0)).take n = s
  have plain : ∀ b ∈ s, decide (b ≠ 0) = true := by
    intro b member
    have nonzero : b ≠ 0 := fun zero => whole (zero ▸ member)
    exact decide_eq_true nonzero
  rw [List.takeWhile_eq_self_iff.mpr plain, List.take_of_length_le (Nat.le_of_lt_succ short)]

/-- The conversions for a type, and the kind of value that `GetJsonValue` asks
for by `JsonTypeSelector`. -/
structure JsonType (α : Type) where
  toJson : α → Json
  getTo : Json → Option α

namespace JsonType

def boolean : JsonType Bool where
  toJson := .boolean
  getTo
    | .boolean b => some b
    | _ => none

/-- `int`, and enumerations over it. -/
def int32 : JsonType Int32 where
  toJson i := .integer i.toInt64
  getTo
    | .integer i => some i.toInt32
    | .unsigned n => some n.toUInt32.toInt32
    | _ => none

def int64 : JsonType Int64 where
  toJson := .integer
  getTo
    | .integer i => some i
    | .unsigned n => some n.toInt64
    | _ => none

def uint8 : JsonType UInt8 where
  toJson n := .unsigned n.toUInt64
  getTo
    | .unsigned n => some n.toUInt8
    | _ => none

def uint32 : JsonType UInt32 where
  toJson n := .unsigned n.toUInt64
  getTo
    | .unsigned n => some n.toUInt32
    | _ => none

def uint64 : JsonType UInt64 where
  toJson := .unsigned
  getTo
    | .unsigned n => some n
    | _ => none

def cstring {n : Nat} : JsonType (FixedString (n + 1)) where
  toJson s := .string s.val
  getTo
    | .string s => some (FixedString.copy s)
    | _ => none

def Lossless {α : Type} (t : JsonType α) : Prop :=
  ∀ value, t.getTo (t.toJson value).reparsed = some value

theorem lossless_boolean : boolean.Lossless := fun _ => rfl

theorem toInt32_toUInt32_toUInt64 (i : Int32) : i.toInt64.toUInt64.toUInt32.toInt32 = i := by
  apply Int32.toBitVec_inj.mp
  simp only [UInt32.toBitVec_toInt32, UInt64.toBitVec_toUInt32, Int64.toBitVec_toUInt64,
    Int32.toBitVec_toInt64]
  apply BitVec.eq_of_getLsbD_eq
  intro k h
  have inside : k < 64 := Nat.lt_trans h (by decide)
  simp only [BitVec.getLsbD_setWidth, BitVec.getLsbD_signExtend, h, inside, decide_true,
    Bool.true_and, if_true]

theorem lossless_int32 : int32.Lossless := by
  intro i
  change int32.getTo (Json.reparsed (.integer i.toInt64)) = some i
  rw [Json.reparsed]
  split
  · exact congrArg some (Int32.toInt32_toInt64 i)
  · exact congrArg some (toInt32_toUInt32_toUInt64 i)

theorem lossless_int64 : int64.Lossless := by
  intro i
  change int64.getTo (Json.reparsed (.integer i)) = some i
  rw [Json.reparsed]
  split <;> rfl

theorem lossless_uint8 : uint8.Lossless := fun n => congrArg some (UInt8.toUInt8_toUInt64 n)

theorem lossless_uint32 : uint32.Lossless := fun n => congrArg some (UInt32.toUInt32_toUInt64 n)

theorem lossless_uint64 : uint64.Lossless := fun _ => rfl

theorem lossless_cstring {n : Nat} : (cstring (n := n)).Lossless :=
  fun s => congrArg some s.copy_val

variable {α : Type} [DecidableEq α] (t : JsonType α)

/-- `SET_JSON_VAL`. -/
def setJsonVal (key : Text) (value default : α) : Json.Member :=
  ⟨key, value ≠ default, t.toJson value⟩

omit [DecidableEq α] in
/-- A member of the wrong type is passed over. -/
def getJsonValue (j : Json) (key : Text) (result : α) : α :=
  match j.find key with
  | none => result
  | some value => (t.getTo value).getD result

theorem getJsonValue_write {t : JsonType α} (lossless : t.Lossless) {members : List Json.Member}
    (distinct : (members.map Json.Member.key).Nodup) {key : Text} {value default : α} (k : Nat)
    (here : members[k]? = some (t.setJsonVal key value default)) :
    t.getJsonValue (Json.write members .null).reparsed key default = value := by
  have found := Json.find_write members (j := .null) trivial distinct (List.mem_of_getElem? here)
  change (Json.write members .null).find key =
    if (decide (value ≠ default)) = true then some (t.toJson value) else none at found
  rw [getJsonValue, Json.find_reparsed, found]
  by_cases same : value = default
  · simp [same]
  · simp [same, lossless value]

end JsonType

end ArcdpsHealing.Settings
