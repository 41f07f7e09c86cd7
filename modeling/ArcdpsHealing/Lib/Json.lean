import ArcdpsHealing.Lib.Utf8
import Mathlib.Algebra.Order.Ring.Nat
import Mathlib.Data.List.Basic

/-! JSON values, their compact text and what is left of them when it is read back. -/

namespace ArcdpsHealing.Lib

def Printable (t : Text) : Prop := ∀ b ∈ t, 32 ≤ b

mutual

/-- A number with a fraction or an exponent is kept as it is spelled. -/
inductive Json
  | null
  | boolean (b : Bool)
  | integer (i : Int64)
  | unsigned (n : UInt64)
  | float (spelling : { t : Text // Printable t })
  | string (s : Text)
  | array (elements : Elements)
  | object (members : Members)

inductive Elements
  | nil
  | cons (value : Json) (rest : Elements)

inductive Members
  | nil
  | cons (key : Text) (value : Json) (rest : Members)

end

namespace Json

def ascii (s : String) : Text := s.toList.map fun c => c.toNat.toUInt8

def digits (n : Nat) : Text := (Nat.toDigits 10 n).map fun c => c.toNat.toUInt8

def hexDigit (n : UInt8) : UInt8 := if n < 10 then 48 + n else 87 + n

def escape (b : UInt8) : Text :=
  if b = 34 then [92, 34]
  else if b = 92 then [92, 92]
  else if b = 8 then [92, 98]
  else if b = 9 then [92, 116]
  else if b = 10 then [92, 110]
  else if b = 12 then [92, 102]
  else if b = 13 then [92, 114]
  else if b < 32 then [92, 117, 48, 48, hexDigit (b / 16), hexDigit (b % 16)]
  else [b]

def quote (s : Text) : Text := 34 :: (s.flatMap escape ++ [34])

end Json

def Elements.separator : Elements → Text
  | .nil => []
  | .cons _ _ => [44]

namespace Members

def find (key : Text) : Members → Option Json
  | nil => none
  | cons k value rest => if k = key then some value else find key rest

def set (key : Text) (value : Json) : Members → Members
  | nil => cons key value nil
  | cons k v rest =>
    if key = k then cons key value rest
    else if key < k then cons key value (cons k v rest)
    else cons k v (set key value rest)

def separator : Members → Text
  | nil => []
  | cons _ _ _ => [44]

end Members

mutual

def Json.text : Json → Text
  | .null => Json.ascii "null"
  | .boolean true => Json.ascii "true"
  | .boolean false => Json.ascii "false"
  | .integer i =>
    if i < 0 then 45 :: Json.digits i.toInt.natAbs else Json.digits i.toInt.natAbs
  | .unsigned n => Json.digits n.toNat
  | .float spelling => spelling.val
  | .string s => Json.quote s
  | .array elements => 91 :: (elements.text ++ [93])
  | .object members => 123 :: (members.text ++ [125])

def Elements.text : Elements → Text
  | .nil => []
  | .cons value rest => value.text ++ (rest.separator ++ rest.text)

def Members.text : Members → Text
  | .nil => []
  | .cons key value rest =>
    Json.quote key ++ 58 :: (value.text ++ (rest.separator ++ rest.text))

end

mutual

def Json.size : Json → Nat
  | .null => 4
  | .boolean _ => 5
  | .integer _ => 20
  | .unsigned _ => 20
  | .float spelling => spelling.val.length
  | .string s => 2 + 6 * s.length
  | .array elements => 2 + elements.size
  | .object members => 2 + members.size

def Elements.size : Elements → Nat
  | .nil => 0
  | .cons value rest => 1 + value.size + rest.size

def Members.size : Members → Nat
  | .nil => 0
  | .cons key value rest => 4 + 6 * key.length + value.size + rest.size

end

mutual

def Json.reparsed : Json → Json
  | .integer i => if i < 0 then .integer i else .unsigned i.toUInt64
  | .array elements => .array elements.reparsed
  | .object members => .object members.reparsed
  | .null => .null
  | .boolean b => .boolean b
  | .unsigned n => .unsigned n
  | .float spelling => .float spelling
  | .string s => .string s

def Elements.reparsed : Elements → Elements
  | .nil => .nil
  | .cons value rest => .cons value.reparsed rest.reparsed

def Members.reparsed : Members → Members
  | .nil => .nil
  | .cons key value rest => .cons key value.reparsed rest.reparsed

end

mutual

def Json.Valid : Json → Prop
  | .string s => ValidUtf8 s
  | .array elements => elements.Valid
  | .object members => members.Valid
  | .null => True
  | .boolean _ => True
  | .integer _ => True
  | .unsigned _ => True
  | .float _ => True

def Elements.Valid : Elements → Prop
  | .nil => True
  | .cons value rest => value.Valid ∧ rest.Valid

def Members.Valid : Members → Prop
  | .nil => True
  | .cons key value rest => ValidUtf8 key ∧ value.Valid ∧ rest.Valid

end

namespace Json

theorem length_digits {n k : Nat} (some : 0 < k) (h : n < 10 ^ k) : (digits n).length ≤ k := by
  rw [digits, List.length_map, Nat.length_toDigits_le_iff (by decide) some]
  exact h

theorem length_escape (b : UInt8) : (escape b).length ≤ 6 := by
  unfold escape
  repeat' split
  all_goals simp

theorem length_quote (s : Text) : (quote s).length ≤ 2 + 6 * s.length := by
  have inner : (s.flatMap escape).length ≤ 6 * s.length := by
    induction s with
    | nil => simp
    | cons b s ih =>
      have := length_escape b
      simp only [List.flatMap_cons, List.length_append, List.length_cons]
      omega
  simp only [quote, List.length_cons, List.length_append, List.length_nil]
  omega

theorem length_text_integer (i : Int64) : (text (.integer i)).length ≤ size (.integer i) := by
  have low := i.le_toInt
  have high := i.toInt_lt
  have count : (digits i.toInt.natAbs).length ≤ 19 := length_digits (by decide) (by omega)
  rw [text, size]
  split
  · rw [List.length_cons]
    omega
  · omega

end Json

theorem Elements.length_separator (elements : Elements) : elements.separator.length ≤ 1 := by
  cases elements with
  | nil => exact Nat.zero_le 1
  | cons value rest => exact Nat.le_refl 1

namespace Members

theorem length_separator (members : Members) : members.separator.length ≤ 1 := by
  cases members with
  | nil => exact Nat.zero_le 1
  | cons key value rest => exact Nat.le_refl 1

end Members

mutual

theorem Json.length_text (j : Json) : j.text.length ≤ j.size := by
  cases j with
  | null => decide
  | boolean b => cases b <;> decide
  | integer i => exact Json.length_text_integer i
  | unsigned n =>
    exact Json.length_digits (k := 20) (by decide) (Nat.lt_trans n.toNat_lt (by decide))
  | float spelling => exact Nat.le_refl _
  | string s => exact Json.length_quote s
  | array elements =>
    have inner := elements.length_text
    simp only [Json.text, Json.size, List.length_cons, List.length_append, List.length_nil]
    omega
  | object members =>
    have inner := members.length_text
    simp only [Json.text, Json.size, List.length_cons, List.length_append, List.length_nil]
    omega

theorem Elements.length_text (elements : Elements) : elements.text.length ≤ elements.size := by
  cases elements with
  | nil => exact Nat.le_refl 0
  | cons value rest =>
    have left := value.length_text
    have right := rest.length_text
    have comma := rest.length_separator
    simp only [Elements.text, Elements.size, List.length_append]
    omega

theorem Members.length_text (members : Members) : members.text.length ≤ members.size := by
  cases members with
  | nil => exact Nat.le_refl 0
  | cons key value rest =>
    have left := Json.length_quote key
    have middle := value.length_text
    have right := rest.length_text
    have comma := rest.length_separator
    simp only [Members.text, Members.size, List.length_cons, List.length_append]
    omega

end

namespace Printable

theorem nil : Printable [] := List.forall_mem_nil _

theorem cons {b : UInt8} {t : Text} (first : 32 ≤ b) (rest : Printable t) : Printable (b :: t) :=
  List.forall_mem_cons.mpr ⟨first, rest⟩

theorem append {t t' : Text} (h : Printable t) (h' : Printable t') : Printable (t ++ t') :=
  List.forall_mem_append.mpr ⟨h, h'⟩

end Printable

namespace Json

theorem printable_digits (n : Nat) : Printable (digits n) := by
  intro b member
  obtain ⟨c, digit, rfl⟩ := List.mem_map.mp member
  have digit := Nat.isDigit_of_mem_toDigits (by decide) (by decide) digit
  simp only [Char.isDigit, Bool.and_eq_true, decide_eq_true_eq, ge_iff_le] at digit
  obtain ⟨low, high⟩ := digit
  rw [UInt32.le_iff_toNat_le] at low high
  rw [UInt8.le_iff_toNat_le]
  change 48 ≤ c.toNat at low
  change c.toNat ≤ 57 at high
  change 32 ≤ c.toNat % 256
  omega

theorem printable_hexDigit {n : UInt8} (h : n < 16) : 32 ≤ hexDigit n := by
  rw [UInt8.lt_iff_toNat_lt] at h
  change n.toNat < 16 at h
  unfold hexDigit
  split
  · rw [UInt8.le_iff_toNat_le, UInt8.toNat_add]
    change 32 ≤ (48 + n.toNat) % 256
    omega
  · rw [UInt8.le_iff_toNat_le, UInt8.toNat_add]
    change 32 ≤ (87 + n.toNat) % 256
    omega

theorem printable_escape (b : UInt8) : Printable (escape b) := by
  have low : b / 16 < 16 := by
    rw [UInt8.lt_iff_toNat_lt, UInt8.toNat_div]
    exact Nat.div_lt_of_lt_mul b.toNat_lt
  have high : b % 16 < 16 := by
    rw [UInt8.lt_iff_toNat_lt, UInt8.toNat_mod]
    exact Nat.mod_lt _ (by decide)
  have pair (c : UInt8) (plain : 32 ≤ c) : Printable [92, c] :=
    .cons (by decide) (.cons plain .nil)
  unfold escape
  split
  case isTrue => exact pair 34 (by decide)
  split
  case isTrue => exact pair 92 (by decide)
  split
  case isTrue => exact pair 98 (by decide)
  split
  case isTrue => exact pair 116 (by decide)
  split
  case isTrue => exact pair 110 (by decide)
  split
  case isTrue => exact pair 102 (by decide)
  split
  case isTrue => exact pair 114 (by decide)
  split
  case isTrue =>
    exact .cons (by decide) (.cons (by decide) (.cons (by decide) (.cons (by decide)
      (.cons (printable_hexDigit low) (.cons (printable_hexDigit high) .nil)))))
  case isFalse plain => exact .cons (UInt8.not_lt.mp plain) .nil

theorem printable_ascii {s : String} (plain : (ascii s).all (32 ≤ ·) = true) :
    Printable (ascii s) := by
  intro b member
  exact of_decide_eq_true (List.all_eq_true.mp plain b member)

theorem printable_quote (s : Text) : Printable (quote s) := by
  have inner : Printable (s.flatMap escape) := by
    induction s with
    | nil => exact .nil
    | cons b s ih => exact (printable_escape b).append ih
  exact .cons (by decide) (inner.append (.cons (by decide) .nil))

end Json

mutual

theorem Json.printable_text (j : Json) : Printable j.text := by
  cases j with
  | null => exact Json.printable_ascii (by decide)
  | boolean b =>
    cases b with
    | false => exact Json.printable_ascii (by decide)
    | true => exact Json.printable_ascii (by decide)
  | integer i =>
    rw [Json.text]
    split
    · exact .cons (by decide) (Json.printable_digits _)
    · exact Json.printable_digits _
  | unsigned n => exact Json.printable_digits _
  | float spelling => exact spelling.property
  | string s => exact Json.printable_quote s
  | array elements =>
    exact .cons (by decide) (elements.printable_text.append (.cons (by decide) .nil))
  | object members =>
    exact .cons (by decide) (members.printable_text.append (.cons (by decide) .nil))

theorem Elements.printable_text (elements : Elements) : Printable elements.text := by
  cases elements with
  | nil => exact .nil
  | cons value rest =>
    have comma : Printable rest.separator := by
      cases rest with
      | nil => exact .nil
      | cons value rest => exact .cons (by decide) .nil
    exact value.printable_text.append (comma.append rest.printable_text)

theorem Members.printable_text (members : Members) : Printable members.text := by
  cases members with
  | nil => exact .nil
  | cons key value rest =>
    have comma : Printable rest.separator := by
      cases rest with
      | nil => exact .nil
      | cons key value rest => exact .cons (by decide) .nil
    exact (Json.printable_quote key).append (.cons (by decide)
      (value.printable_text.append (comma.append rest.printable_text)))

end

namespace Members

theorem ind {motive : Members → Prop} (nil : motive nil)
    (cons : ∀ key value rest, motive rest → motive (cons key value rest)) (members : Members) :
    motive members :=
  Members.rec (motive_1 := fun _ => True) (motive_2 := fun _ => True) trivial (fun _ => trivial)
    (fun _ => trivial) (fun _ => trivial) (fun _ => trivial) (fun _ => trivial)
    (fun _ _ => trivial) (fun _ _ => trivial) trivial (fun _ _ _ _ => trivial) nil
    (fun key value rest _ ih => cons key value rest ih) members

variable (key : Text) (value : Json) (members : Members)

theorem find_set_self : (members.set key value).find key = some value := by
  induction members using Members.ind with
  | nil => simp [set, find]
  | cons k v rest ih =>
    unfold set
    split
    case isTrue => simp [find]
    split
    case isTrue => simp [find]
    case isFalse other _ => rw [find, if_neg (Ne.symm other), ih]

theorem find_set_of_ne {other : Text} (different : key ≠ other) :
    (members.set key value).find other = members.find other := by
  induction members using Members.ind with
  | nil => simp [set, find, different]
  | cons k v rest ih =>
    unfold set
    split
    case isTrue same =>
      subst same
      simp [find, different]
    split
    case isTrue => simp [find, different]
    case isFalse => rw [find, ih, find]

theorem find_reparsed : members.reparsed.find key = (members.find key).map Json.reparsed := by
  induction members using Members.ind with
  | nil => rfl
  | cons k v rest ih =>
    rw [reparsed, find, find, ih]
    split <;> rfl

variable {key value members} in
theorem valid_of_find (valid : members.Valid) (found : members.find key = some value) :
    value.Valid := by
  induction members using Members.ind with
  | nil => cases found
  | cons k v rest ih =>
    unfold find at found
    split at found
    · cases found
      exact valid.2.1
    · exact ih valid.2.2 found

theorem size_set :
    (members.set key value).size ≤ 4 + 6 * key.length + value.size + members.size := by
  induction members using Members.ind with
  | nil => simp [set, size]
  | cons k v rest ih =>
    unfold set
    split
    case isTrue same =>
      subst same
      simp only [size]
      omega
    split
    case isTrue =>
      simp only [size]
      omega
    case isFalse =>
      simp only [size]
      omega

theorem valid_set {key : Text} {value : Json} {members : Members} (left : ValidUtf8 key)
    (middle : value.Valid) (right : members.Valid) : (members.set key value).Valid := by
  induction members using Members.ind with
  | nil => exact ⟨left, middle, trivial⟩
  | cons k v rest ih =>
    unfold set
    split
    case isTrue => exact ⟨left, middle, right.2.2⟩
    split
    case isTrue => exact ⟨left, middle, right⟩
    case isFalse => exact ⟨right.1, right.2.1, ih right.2.2⟩

end Members

namespace Json

def find (key : Text) : Json → Option Json
  | .object members => members.find key
  | _ => none

/-- `operator[]` makes an object of null. -/
def set (j : Json) (key : Text) (value : Json) : Json :=
  match j with
  | .null => .object (.cons key value .nil)
  | .object members => .object (members.set key value)
  | j => j

def isNull : Json → Bool
  | .null => true
  | _ => false

theorem find_reparsed (key : Text) (j : Json) :
    j.reparsed.find key = (j.find key).map reparsed := by
  cases j with
  | object members => exact members.find_reparsed key
  | integer i =>
    rw [reparsed]
    split <;> rfl
  | null | boolean | unsigned | float | string | array => rfl

theorem valid_of_find {key : Text} {value j : Json} (valid : j.Valid)
    (found : j.find key = some value) : value.Valid := by
  cases j with
  | object members => exact Members.valid_of_find valid found
  | null | boolean | integer | unsigned | float | string | array => cases found

def Open : Json → Prop
  | .null => True
  | .object _ => True
  | _ => False

theorem Open.eq_object {j : Json} (h : j.Open) (some : j.isNull = false) :
    ∃ members, j = .object members := by
  cases j with
  | null => cases some
  | object members => exact ⟨members, rfl⟩
  | boolean | integer | unsigned | float | string | array => cases h

theorem open_set (key : Text) (value : Json) {j : Json} (h : j.Open) : (j.set key value).Open := by
  cases j with
  | null | object => trivial
  | boolean | integer | unsigned | float | string | array => cases h

theorem isNull_set (key : Text) (value : Json) {j : Json} (h : j.Open) :
    (j.set key value).isNull = false := by
  cases j with
  | null | object => rfl
  | boolean | integer | unsigned | float | string | array => cases h

theorem find_set_self (key : Text) (value : Json) {j : Json} (h : j.Open) :
    (j.set key value).find key = some value := by
  cases j with
  | null => exact Members.find_set_self key value .nil
  | object members => exact members.find_set_self key value
  | boolean | integer | unsigned | float | string | array => cases h

theorem find_set_of_ne {key other : Text} (different : key ≠ other) (value : Json) (j : Json) :
    (j.set key value).find other = j.find other := by
  cases j with
  | null => exact Members.find_set_of_ne key value .nil different
  | object members => exact members.find_set_of_ne key value different
  | boolean | integer | unsigned | float | string | array => rfl

theorem size_set (key : Text) (value : Json) (j : Json) :
    (j.set key value).size ≤ 4 + 6 * key.length + value.size + j.size := by
  cases j with
  | null =>
    simp only [set, size, Members.size]
    omega
  | object members =>
    have := members.size_set key value
    simp only [set, size]
    omega
  | boolean | integer | unsigned | float | string | array => exact Nat.le_add_left _ _

theorem valid_set {key : Text} {value j : Json} (left : ValidUtf8 key) (middle : value.Valid)
    (right : j.Valid) : (j.set key value).Valid := by
  cases j with
  | null => exact ⟨left, middle, trivial⟩
  | object members => exact Members.valid_set left middle right
  | boolean | integer | unsigned | float | string | array => exact right

structure Member where
  key : Text
  differs : Bool
  value : Json

def write : List Member → Json → Json
  | [], j => j
  | m :: members, j => write members (if m.differs = true then j.set m.key m.value else j)

section Write

variable (members : List Member) {j : Json}

theorem open_write (h : j.Open) : (write members j).Open := by
  induction members generalizing j with
  | nil => exact h
  | cons m members ih =>
    rw [write]
    apply ih
    split
    · exact open_set m.key m.value h
    · exact h

theorem find_write_of_notMem {key : Text} (other : key ∉ members.map Member.key) :
    (write members j).find key = j.find key := by
  induction members generalizing j with
  | nil => rfl
  | cons m members ih =>
    rw [List.map_cons, List.mem_cons, not_or] at other
    rw [write]
    refine (ih other.2).trans ?_
    split
    · exact find_set_of_ne (Ne.symm other.1) m.value j
    · rfl

theorem find_write (h : j.Open) (distinct : (members.map Member.key).Nodup) {m : Member}
    (here : m ∈ members) :
    (write members j).find m.key = if m.differs = true then some m.value else j.find m.key := by
  induction members generalizing j with
  | nil => cases here
  | cons first members ih =>
    rw [List.map_cons, List.nodup_cons] at distinct
    rw [write]
    rcases List.mem_cons.mp here with rfl | here
    · refine (find_write_of_notMem members distinct.1).trans ?_
      split
      · exact find_set_self m.key m.value h
      · rfl
    · have different : first.key ≠ m.key := by
        intro same
        exact distinct.1 (same ▸ List.mem_map_of_mem here)
      split
      · refine (ih (open_set _ _ h) distinct.2 here).trans ?_
        rw [find_set_of_ne different]
      · exact ih h distinct.2 here

theorem isNull_write (h : j.Open) : (write members j).isNull = true ↔
    j.isNull = true ∧ ∀ m ∈ members, m.differs = false := by
  induction members generalizing j with
  | nil => simp [write]
  | cons m members ih =>
    rw [write, List.forall_mem_cons]
    split
    case isTrue differs =>
      refine (ih (open_set _ _ h)).trans ?_
      simp [isNull_set _ _ h, differs]
    case isFalse same =>
      refine (ih h).trans ?_
      simp [same]

def Member.cost (m : Member) : Nat := 4 + 6 * m.key.length + m.value.size

theorem sum_cost (members : List Member) : (members.map Member.cost).sum =
    ((members.map Member.key).map fun key => 4 + 6 * key.length).sum +
      ((members.map Member.value).map size).sum := by
  induction members with
  | nil => rfl
  | cons m members ih =>
    simp only [List.map_cons, List.sum_cons, Member.cost, ih]
    omega

theorem size_write (j : Json) :
    (write members j).size ≤ (members.map Member.cost).sum + j.size := by
  induction members generalizing j with
  | nil => simp [write]
  | cons m members ih =>
    rw [write, List.map_cons, List.sum_cons]
    split
    · have first := size_set m.key m.value j
      have rest := ih (j.set m.key m.value)
      rw [Member.cost]
      omega
    · have rest := ih j
      omega

theorem valid_write (h : j.Valid) (all : ∀ m ∈ members, ValidUtf8 m.key ∧ m.value.Valid) :
    (write members j).Valid := by
  induction members generalizing j with
  | nil => exact h
  | cons m members ih =>
    obtain ⟨first, rest⟩ := List.forall_mem_cons.mp all
    rw [write]
    split
    · exact ih (valid_set first.1 first.2 h) rest
    · exact ih h rest

end Write

end Json

end ArcdpsHealing.Lib
