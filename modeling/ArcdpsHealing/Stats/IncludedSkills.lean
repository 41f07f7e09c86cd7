import ArcdpsHealing.Lib.FromChars
import ArcdpsHealing.Lib.Tokens
import ArcdpsHealing.Stats.AggregatedStats

namespace ArcdpsHealing.Stats

open Arcdps Lib Settings

/-- What the loop of `ParseUInt32String` makes of a token. -/
def tokenValue (token : CString) : Option UInt32 :=
  let fromCharsResult := Lib.fromChars (2 ^ 32) token
  if fromCharsResult.ec ≠ none ∨ fromCharsResult.ptr ≠ token.length then none
  else some (UInt32.ofNat (fromCharsResult.value.getD 0))

theorem tokenValue_of_denotes {token : CString} {n : Nat} (h : Denotes (2 ^ 32) token n) :
    tokenValue token = some (UInt32.ofNat n) := by
  have all := takeWhile_of_denotes h
  have read := fromChars_of_denotes (s := token) (all.symm ▸ h)
  rw [all] at read
  unfold tokenValue
  rw [read]
  exact if_neg (by simp)

theorem tokenValue_eq_some {token : CString} {value : UInt32} :
    tokenValue token = some value ↔ Denotes (2 ^ 32) token value.toNat := by
  constructor
  · intro parsed
    have whole : (Lib.fromChars (2 ^ 32) token).ec = none ∧
        (Lib.fromChars (2 ^ 32) token).ptr = token.length := by
      unfold tokenValue at parsed
      by_contra stops
      rw [if_pos (not_and_or.mp stops)] at parsed
      cases parsed
    obtain ⟨n, h⟩ := fromChars_whole_iff.mp whole
    rw [tokenValue_of_denotes h] at parsed
    cases parsed
    rw [UInt32.toNat_ofNat_of_lt' h.fits]
    exact h
  · intro h
    rw [tokenValue_of_denotes h, UInt32.ofNat_toNat]

theorem fromChars_eq_tokenValue (token : CString) : fromChars token = tokenValue token := by
  by_cases here : ∃ n, Denotes (2 ^ 32) token n
  · obtain ⟨n, h⟩ := here
    have digits : token.all (fun c => 48 ≤ c ∧ c ≤ 57) = true := by
      rw [List.all_eq_true]
      exact h.digits
    obtain rfl := h.value
    rw [tokenValue_of_denotes h, fromChars, if_pos ⟨h.nonempty, digits⟩]
    exact if_pos h.fits
  · have parsed : tokenValue token = none := by
      rw [Option.eq_none_iff_forall_ne_some]
      exact fun value some => here ⟨_, tokenValue_eq_some.mp some⟩
    rw [parsed, fromChars]
    split
    · rename_i digits
      exact if_neg fun fits => here ⟨_, digits.1, List.all_eq_true.mp digits.2, rfl, fits⟩
    · rfl

theorem parseUInt32String_eq_tokens (s : CString) :
    parseUInt32String s = (tokens isDelim s).filterMap tokenValue :=
  List.filterMap_congr fun token _ => fromChars_eq_tokenValue token

section Decimal

theorem utf8_digitChar :
    ∀ d < 10, String.utf8EncodeChar d.digitChar = [UInt8.ofNat (48 + d)] := by
  decide +kernel

theorem decimal_eq_flatMap (n : Nat) :
    decimal n = (Nat.toDigits 10 n).flatMap String.utf8EncodeChar := by
  simp [decimal, utf8, Nat.repr]

theorem decimal_of_lt {n : Nat} (low : n < 10) : decimal n = [UInt8.ofNat (48 + n)] := by
  rw [decimal_eq_flatMap, Nat.toDigits_of_lt_base low, List.flatMap_singleton,
    utf8_digitChar n low]

theorem decimal_of_le {n : Nat} (high : 10 ≤ n) :
    decimal n = decimal (n / 10) ++ [UInt8.ofNat (48 + n % 10)] := by
  rw [decimal_eq_flatMap, Nat.toDigits_of_base_le (by decide) high, List.flatMap_append,
    ← decimal_eq_flatMap, List.flatMap_singleton, utf8_digitChar _ (Nat.mod_lt n (by decide))]

theorem digit_byte {d : Nat} (low : d < 10) :
    isDigit (UInt8.ofNat (48 + d)) = true ∧ (UInt8.ofNat (48 + d)).toNat - 48 = d := by
  revert d
  decide +kernel

theorem denotes_decimal {limit n : Nat} (fits : n < limit) : Denotes limit (decimal n) n := by
  induction n using Nat.strong_induction_on with
  | _ n ih =>
    rcases Nat.lt_or_ge n 10 with low | high
    · obtain ⟨digit, value⟩ := digit_byte low
      rw [decimal_of_lt low]
      constructor
      case nonempty => exact List.cons_ne_nil _ _
      case digits => simpa using digit
      case value =>
        rw [← List.nil_append [_], number_append_digit, value]
        exact Nat.zero_add n
      case fits => exact fits
    · obtain ⟨digit, value⟩ := digit_byte (Nat.mod_lt n (by decide : 0 < 10))
      have h := ih (n / 10) (by omega) (by omega)
      rw [decimal_of_le high]
      constructor
      case nonempty => exact List.append_ne_nil_of_right_ne_nil _ (List.cons_ne_nil _ _)
      case digits =>
        intro c member
        rcases List.mem_append.mp member with front | last
        · exact h.digits c front
        · exact List.mem_singleton.mp last ▸ digit
      case value =>
        rw [number_append_digit, value, h.value]
        omega
      case fits => exact fits

end Decimal

theorem filterMap_tokenValue {runs : List CString} {numbers : List UInt32}
    (denote : List.Forall₂ (fun run n => Denotes (2 ^ 32) run n.toNat) runs numbers) :
    runs.filterMap tokenValue = numbers := by
  induction denote with
  | nil => rfl
  | cons first _ ih => rw [List.filterMap_cons, tokenValue_eq_some.mpr first, ih]

/-- The values of the runs between delimiters that are numbers, in order, which is
what a list of numbers is read as however it is delimited. -/
theorem parseUInt32String_runs (s : CString) :
    ∃ runs value, Runs isDelim s runs ∧ (∀ runs', Runs isDelim s runs' → runs' = runs) ∧
      (∀ run n, value run = some n ↔ Denotes (2 ^ 32) run n.toNat) ∧
      parseUInt32String s = runs.filterMap value ∧
      (∀ numbers : List UInt32, List.Forall₂ (fun run n => Denotes (2 ^ 32) run n.toNat)
        runs numbers → parseUInt32String s = numbers) ∧
      (∀ numbers : List UInt32, runs = numbers.map (fun n => decimal n.toNat) →
        parseUInt32String s = numbers) ∧
      ∀ x : AggregatedStats, x.myOptions.includedSkills.val = s → ∀ skillId,
        x.filterSkill skillId = false ↔
          parseUInt32String s = [] ∨ skillId ∈ parseUInt32String s := by
  obtain ⟨runs, h⟩ := exists_runs isDelim s
  have parsed : parseUInt32String s = runs.filterMap tokenValue := by
    rw [parseUInt32String_eq_tokens, h.tokens_eq]
  refine ⟨runs, tokenValue, h, fun runs' h' => h'.tokens_eq.symm.trans h.tokens_eq,
    fun run n => tokenValue_eq_some, parsed, fun numbers denote => ?_, fun numbers written => ?_,
    fun x included skillId => ?_⟩
  · exact parsed.trans (filterMap_tokenValue denote)
  · refine parsed.trans (filterMap_tokenValue ?_)
    rw [written, List.forall₂_map_left_iff, List.forall₂_same]
    exact fun n _ => denotes_decimal n.toNat_lt
  · have list : x.getIncludedSkills = parseUInt32String s := congrArg _ included
    rw [AggregatedStats.filterSkill, list]
    by_cases empty : parseUInt32String s = []
    · simp [empty]
    · simp [empty]

end ArcdpsHealing.Stats
