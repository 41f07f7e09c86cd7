import ArcdpsHealing.Lib.FromChars
import ArcdpsHealing.Settings.State

namespace ArcdpsHealing.Networking

open Arcdps Lib Settings

structure Splits (endpoint address text : CString) : Prop where
  joined : endpoint = address ++ 58 :: text
  first : 58 ∉ address

/-- What `pOutAddress` and `pOutPort` point to. -/
structure Endpoint where
  address : CString
  port : UInt16
  deriving DecidableEq

/-- `Socket::ParseEndpoint`. -/
def parseEndpoint (endpoint : CString) (portRequired : Bool) (out : Endpoint) :
    Bool × Endpoint :=
  match endpoint.findIdx? (· = 58) with
  | none => if portRequired = true then (false, out) else (true, { out with address := endpoint })
  | some colonPos =>
    let portStr := endpoint.drop (colonPos + 1)
    let out := { out with address := endpoint.take colonPos }
    let portParseRes := fromChars (2 ^ 16) portStr
    let out := match portParseRes.value with
      | some port => { out with port := UInt16.ofNat port }
      | none => out
    if portParseRes.ec ≠ none then (false, out) else (true, out)

section Splits

variable {endpoint address text : CString}

theorem Splits.findIdx? (h : Splits endpoint address text) :
    endpoint.findIdx? (· = 58) = some address.length := by
  have before : address.findIdx? (· = 58) = none := by
    rw [List.findIdx?_eq_none_iff]
    intro c member
    exact decide_eq_false fun colon => h.first (colon ▸ member)
  rw [h.joined, List.findIdx?_append, before, List.findIdx?_cons]
  simp

theorem Splits.take_eq (h : Splits endpoint address text) :
    endpoint.take address.length = address := by
  rw [h.joined, List.take_left]

theorem Splits.drop_eq (h : Splits endpoint address text) :
    endpoint.drop (address.length + 1) = text := by
  rw [h.joined, ← List.drop_drop, List.drop_left]
  rfl

theorem Splits.unique (h : Splits endpoint address text) {address' text' : CString}
    (h' : Splits endpoint address' text') : address = address' ∧ text = text' := by
  have length := Option.some.inj (h.findIdx?.symm.trans h'.findIdx?)
  have parts := List.append_inj (h.joined.symm.trans h'.joined) length
  exact ⟨parts.1, (List.cons.inj parts.2).2⟩

theorem exists_splits (colon : 58 ∈ endpoint) : ∃ address text, Splits endpoint address text := by
  obtain ⟨address, text, joined, first⟩ := List.eq_append_cons_of_mem colon
  exact ⟨address, text, joined, first⟩

theorem Splits.colon (h : Splits endpoint address text) : 58 ∈ endpoint := by
  rw [h.joined]
  simp

end Splits

variable {endpoint address text : CString} {portRequired : Bool} {out : Endpoint}

theorem parseEndpoint_of_not_mem (none : 58 ∉ endpoint) :
    parseEndpoint endpoint portRequired out =
      if portRequired = true then (false, out) else (true, { out with address := endpoint }) := by
  have absent : endpoint.findIdx? (· = 58) = .none := by
    rw [List.findIdx?_eq_none_iff]
    intro c member
    exact decide_eq_false fun colon => none (colon ▸ member)
  rw [parseEndpoint, absent]

theorem parseEndpoint_of_denotes (h : Splits endpoint address text) {port : Nat}
    (begins : Denotes (2 ^ 16) (text.takeWhile isDigit) port) :
    parseEndpoint endpoint portRequired out = (true, ⟨address, UInt16.ofNat port⟩) := by
  rw [parseEndpoint, h.findIdx?]
  simp only [h.drop_eq, h.take_eq, fromChars_of_denotes begins]
  rfl

theorem parseEndpoint_of_not_denotes (h : Splits endpoint address text)
    (begins : ¬ ∃ port, Denotes (2 ^ 16) (text.takeWhile isDigit) port) :
    parseEndpoint endpoint portRequired out = (false, { out with address := address }) := by
  obtain ⟨failed, unassigned⟩ := fromChars_of_not_denotes begins
  rw [parseEndpoint, h.findIdx?]
  simp only [h.drop_eq, h.take_eq, unassigned]
  exact if_pos failed

/-- What endpoints are to be accepted, and what becomes of the outputs. -/
structure ParsesAs (endpoint : CString) (portRequired : Bool) (out : Endpoint)
    (result : Bool × Endpoint) : Prop where
  accepts : result.1 = true ↔
    (∃ address text port, Splits endpoint address text ∧ Denotes (2 ^ 16) text port) ∨
      portRequired = false ∧ 58 ∉ endpoint
  assigned : ∀ address text port, Splits endpoint address text → Denotes (2 ^ 16) text port →
    result.2 = ⟨address, UInt16.ofNat port⟩
  whole : portRequired = false → 58 ∉ endpoint → result.2 = { out with address := endpoint }
  untouched : result.1 = false → result.2 = out

theorem parsesAs_of_not_mem (none : 58 ∉ endpoint) :
    ParsesAs endpoint portRequired out (parseEndpoint endpoint portRequired out) := by
  rw [parseEndpoint_of_not_mem none]
  constructor
  case accepts =>
    have split : ¬ ∃ address text port,
        Splits endpoint address text ∧ Denotes (2 ^ 16) text port := by
      rintro ⟨_, _, _, h, _⟩
      exact none h.colon
    rw [or_iff_right split]
    cases portRequired <;> simp [none]
  case assigned => exact fun _ _ _ h => absurd h.colon none
  case whole =>
    rintro rfl _
    rfl
  case untouched => cases portRequired <;> simp

theorem parsesAs_iff_of_begins (h : Splits endpoint address text) {port : Nat}
    (begins : Denotes (2 ^ 16) (text.takeWhile isDigit) port) :
    ParsesAs endpoint portRequired out (parseEndpoint endpoint portRequired out) ↔
      ∃ port, Denotes (2 ^ 16) text port := by
  rw [parseEndpoint_of_denotes h begins]
  constructor
  · intro parses
    rcases parses.accepts.mp rfl with ⟨address', text', port', h', denotes⟩ | ⟨_, none⟩
    · obtain ⟨rfl, rfl⟩ := h.unique h'
      exact ⟨port', denotes⟩
    · exact absurd h.colon none
  · rintro ⟨port', denotes⟩
    obtain rfl := denotes.unique (takeWhile_of_denotes denotes ▸ begins)
    constructor
    case accepts => exact iff_of_true rfl (.inl ⟨address, text, port', h, denotes⟩)
    case assigned =>
      intro address' text' port h' denotes'
      obtain ⟨rfl, rfl⟩ := h.unique h'
      rw [denotes.unique denotes']
    case whole => exact fun _ none => absurd h.colon none
    case untouched => exact fun failed => Bool.noConfusion failed

theorem parsesAs_iff_of_not_begins (h : Splits endpoint address text)
    (begins : ¬ ∃ port, Denotes (2 ^ 16) (text.takeWhile isDigit) port) :
    ParsesAs endpoint portRequired out (parseEndpoint endpoint portRequired out) ↔
      out.address = address := by
  have none : ¬ ∃ port, Denotes (2 ^ 16) text port := fun ⟨port, denotes⟩ =>
    begins ⟨port, (takeWhile_of_denotes denotes).symm ▸ denotes⟩
  rw [parseEndpoint_of_not_denotes h begins]
  constructor
  · intro parses
    exact (congrArg Endpoint.address (parses.untouched rfl)).symm
  · rintro rfl
    constructor
    case accepts =>
      refine iff_of_false Bool.false_ne_true ?_
      rintro (⟨address', text', port', h', denotes⟩ | ⟨_, absent⟩)
      · obtain ⟨rfl, rfl⟩ := h.unique h'
        exact none ⟨port', denotes⟩
      · exact absent h.colon
    case assigned =>
      intro address' text' port' h' denotes
      obtain ⟨rfl, rfl⟩ := h.unique h'
      exact absurd ⟨port', denotes⟩ none
    case whole => exact fun _ absent => absurd h.colon absent
    case untouched => exact fun _ => rfl

/-- Endpoints are parsed as they should be where there is no colon, where the text
after it is a port, and where it begins with none and the address was there before. -/
theorem parseEndpoint_iff (endpoint : CString) (portRequired : Bool) (out : Endpoint) :
    ParsesAs endpoint portRequired out (parseEndpoint endpoint portRequired out) ↔
      ∀ address text, Splits endpoint address text →
        (∃ port, Denotes (2 ^ 16) text port) ∨
          (¬ ∃ port, Denotes (2 ^ 16) (text.takeWhile isDigit) port) ∧ out.address = address := by
  by_cases colon : 58 ∈ endpoint
  case neg => exact iff_of_true (parsesAs_of_not_mem colon) fun _ _ h => absurd h.colon colon
  case pos =>
    obtain ⟨address, text, h⟩ := exists_splits colon
    have condition {P : CString → CString → Prop} :
        (∀ address text, Splits endpoint address text → P address text) ↔ P address text := by
      refine ⟨fun all => all _ _ h, fun here address' text' h' => ?_⟩
      obtain ⟨rfl, rfl⟩ := h.unique h'
      exact here
    rw [condition]
    by_cases begins : ∃ port, Denotes (2 ^ 16) (text.takeWhile isDigit) port
    · rw [or_iff_left fun h => h.1 begins]
      obtain ⟨port, begins⟩ := begins
      exact parsesAs_iff_of_begins h begins
    · have none : ¬ ∃ port, Denotes (2 ^ 16) text port := fun ⟨port, denotes⟩ =>
        begins ⟨port, (takeWhile_of_denotes denotes).symm ▸ denotes⟩
      rw [or_iff_right none, and_iff_right begins]
      exact parsesAs_iff_of_not_begins h begins

/-- What follows the number is ignored, and an address without a port is assigned. -/
theorem parseEndpoint_trailing :
    let trailing := parseEndpoint (utf8 "127.0.0.1:80abc") true ⟨[], 0⟩
    let missing := parseEndpoint (utf8 "127.0.0.1:") true ⟨[], 0⟩
    (trailing = (true, ⟨utf8 "127.0.0.1", 80⟩) ∧
        ¬ ParsesAs (utf8 "127.0.0.1:80abc") true ⟨[], 0⟩ trailing) ∧
      missing = (false, ⟨utf8 "127.0.0.1", 0⟩) ∧
        ¬ ParsesAs (utf8 "127.0.0.1:") true ⟨[], 0⟩ missing := by
  have trailing : parseEndpoint (utf8 "127.0.0.1:80abc") true ⟨[], 0⟩ =
      (true, ⟨utf8 "127.0.0.1", 80⟩) := by decide +kernel
  have missing : parseEndpoint (utf8 "127.0.0.1:") true ⟨[], 0⟩ =
      (false, ⟨utf8 "127.0.0.1", 0⟩) := by decide +kernel
  have splits : Splits (utf8 "127.0.0.1:80abc") (utf8 "127.0.0.1") (utf8 "80abc") :=
    ⟨by decide +kernel, by decide +kernel⟩
  refine ⟨⟨trailing, fun parses => ?_⟩, missing, fun parses => ?_⟩
  · rcases parses.accepts.mp (congrArg Prod.fst trailing) with ⟨_, text, port, h, denotes⟩ | none
    · obtain ⟨-, rfl⟩ := splits.unique h
      exact absurd (denotes.digits 97 (by decide +kernel)) (by decide)
    · exact Bool.noConfusion none.1
  · have address := (congrArg Prod.snd missing).symm.trans
      (parses.untouched (congrArg Prod.fst missing))
    exact absurd address (by decide +kernel)

end ArcdpsHealing.Networking
