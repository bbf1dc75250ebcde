import Mathlib.Data.List.DropRight
import Mathlib.Tactic.FieldSimp
import Mathlib.Tactic.Positivity
import TokenBridge.Proofs.Amount.Reader
import TokenBridge.Proofs.Decimal.Printer
import TokenBridge.Proofs.Withdrawal.Judgement

namespace TokenBridge.Amount

open Decimal (Literal Writes Sign)

variable {s : List Char} {n : ℕ}

theorem dropZeros_eq_rdropWhile (s : List Char) : dropZeros s = s.rdropWhile (· = '0') := rfl

theorem exists_dropZeros_append (s : List Char) : ∃ k, dropZeros s ++ List.replicate k '0' = s := by
  induction s using List.reverseRecOn with
  | nil => exact ⟨0, rfl⟩
  | append_singleton s c ih =>
    by_cases hc : c = '0'
    · obtain ⟨k, hk⟩ := ih
      refine ⟨k + 1, ?_⟩
      rw [dropZeros_eq_rdropWhile, List.rdropWhile_concat_pos _ _ _ (by simp [hc]), ← dropZeros_eq_rdropWhile,
        List.replicate_succ', ← List.append_assoc, hk, hc]
    · refine ⟨0, ?_⟩
      rw [dropZeros_eq_rdropWhile, List.rdropWhile_concat_neg _ _ _ (by simp [hc])]
      simp

theorem getLast?_dropZeros : (dropZeros s).getLast? ≠ some '0' := by
  rw [dropZeros_eq_rdropWhile]
  intro h
  have hne : s.rdropWhile (· = '0') ≠ [] := by
    rintro hnil
    simp [hnil] at h
  have hlast := List.rdropWhile_last_not (fun c => decide (c = '0')) s hne
  rw [List.getLast?_eq_some_getLast hne] at h
  simp_all

def places (n : ℕ) : List Char :=
  List.replicate (7 - (Numeral.digits (n % 10 ^ 7)).length) '0' ++ Numeral.digits (n % 10 ^ 7)

theorem balanceText_eq (n : ℕ) :
    balanceText n =
      if dropZeros (places n) = [] then Numeral.digits (n / 10 ^ 7)
      else Numeral.digits (n / 10 ^ 7) ++ '.' :: dropZeros (places n) := rfl

theorem isDigit_of_mem_places {c : Char} (h : c ∈ places n) : c.isDigit := by
  rcases List.mem_append.1 h with h | h
  · exact Numeral.isDigit_of_mem_zeros h
  · exact Numeral.isDigit_of_mem_digits h

theorem isDigit_of_mem_kept {c : Char} (h : c ∈ dropZeros (places n)) : c.isDigit :=
  isDigit_of_mem_places ((List.rdropWhile_prefix _ _).subset h)

theorem length_places (n : ℕ) : (places n).length = 7 := by
  have hlt : n % 10 ^ 7 < 10 ^ 7 := Nat.mod_lt _ (by norm_num)
  have hle := (Decimal.digitCount_le_iff (by norm_num)).2 hlt
  rw [Decimal.digitCount] at hle
  rw [places, List.length_append, List.length_replicate]
  exact Nat.sub_add_cancel hle

theorem ofDigitChars_places (n m : ℕ) : Nat.ofDigitChars 10 (places n) m = 10 ^ 7 * m + n % 10 ^ 7 := by
  have hnumber : Nat.ofDigitChars 10 (places n) 0 = n % 10 ^ 7 := by
    rw [places, Numeral.ofDigitChars_zeros_append, Numeral.ofDigitChars_digits, Nat.mul_zero, Nat.zero_add]
  rw [Nat.ofDigitChars_eq_ofDigitChars_zero, hnumber, length_places]

theorem exists_kept (n : ℕ) :
    ∃ k, (dropZeros (places n)).length + k = 7 ∧
      10 ^ k * Nat.ofDigitChars 10 (Numeral.digits (n / 10 ^ 7) ++ dropZeros (places n)) 0 = n := by
  obtain ⟨k, hk⟩ := exists_dropZeros_append (places n)
  refine ⟨k, ?_, ?_⟩
  · simpa [length_places] using congrArg List.length hk
  · rw [← Numeral.ofDigitChars_append_zeros, List.append_assoc, hk, Nat.ofDigitChars_append,
      Numeral.ofDigitChars_digits, ofDigitChars_places, Nat.mul_zero, Nat.zero_add, Nat.div_add_mod]

theorem writes_balanceText (n : ℕ) : Writes (balanceText n) (n / 10 ^ 7) := by
  obtain ⟨k, hlength, hnumber⟩ := exists_kept n
  have hdigits : ∀ c ∈ Numeral.digits (n / 10 ^ 7) ++ dropZeros (places n), c.isDigit :=
    List.forall_mem_append.2 ⟨fun c => Numeral.isDigit_of_mem_digits, fun c => isDigit_of_mem_kept⟩
  have hne : Numeral.digits (n / 10 ^ 7) ++ dropZeros (places n) ≠ [] := by
    simp [Numeral.digits_ne_nil]
  generalize hm : Nat.ofDigitChars 10 (Numeral.digits (n / 10 ^ 7) ++ dropZeros (places n)) 0 = m at hnumber
  have hvalue : (m : ℚ) * 10 ^ (-(dropZeros (places n)).length : ℤ) = n / 10 ^ 7 := by
    have hseven : (10 : ℚ) ^ 7 = 10 ^ (dropZeros (places n)).length * 10 ^ k := by rw [← pow_add, hlength]
    have hcast : (10 : ℚ) ^ k * m = n := by exact_mod_cast hnumber
    rw [← hcast, zpow_neg, zpow_natCast, hseven]
    field_simp
  rw [balanceText_eq, ← hvalue]
  split
  · next hnil =>
    rw [hnil, List.append_nil] at hdigits hne hm
    have hwhole := Sign.none.writes_whole hne hdigits
    rw [hm] at hwhole
    simpa [hnil] using hwhole
  · simpa using Sign.none.writes_point hne hdigits hm rfl rfl (by omega)

/-- Balances as they are written: no zero in front of the whole tokens, no zero behind the last decimal. -/
inductive Canonical : List Char → Prop
  | whole {w : List Char} : Numeral.Unpadded w → Canonical w
  | fraction {w f : List Char} : Numeral.Unpadded w → f ≠ [] → f.length ≤ 7 → (∀ c ∈ f, c.isDigit) →
      f.getLast? ≠ some '0' → Canonical (w ++ '.' :: f)

theorem canonical_balanceText (n : ℕ) : Canonical (balanceText n) := by
  rw [balanceText_eq]
  split
  · exact .whole (Numeral.unpadded_digits _)
  · next hne =>
    obtain ⟨k, hlength, -⟩ := exists_kept n
    exact .fraction (Numeral.unpadded_digits _) hne (by omega) (fun c => isDigit_of_mem_kept) getLast?_dropZeros

variable {raw : Word}

theorem baseUnits_eq_iff {d : Decimal} : baseUnits d = raw.val ↔ d.value = raw.val / 10 ^ 7 := by
  rw [eq_div_iff (by norm_num), mul_comm]
  rfl

theorem writes_formatBalance (raw : Word) : Writes (formatBalance raw).toList (raw.val / 10 ^ 7) := by
  rw [formatBalance, String.toList_ofList]
  exact writes_balanceText raw.val

theorem parse_formatBalance (raw : Word) :
    ∃ d, parse (formatBalance raw) = .ok d ∧ d.value = raw.val / 10 ^ 7 := by
  obtain ⟨d, hliteral, hvalue⟩ := writes_formatBalance raw
  have hunits : baseUnits d = raw.val := baseUnits_eq_iff.2 hvalue
  have hwhole : ∃ n : ℤ, baseUnits d = n := ⟨raw.val, hunits⟩
  have hsize : |d.value| < 10 ^ 78 := by
    rw [abs_of_nonneg (by rw [hvalue]; positivity)]
    exact value_lt_of_baseUnits_le hunits.le
  rw [← trim_of_literal hliteral] at hliteral
  refine ⟨d, ?_, hvalue⟩
  rw [parse_of_literal hliteral, if_neg (not_not.2 hwhole), if_neg (not_le.2 hsize)]

theorem formatBalance_inj {other : Word} (h : formatBalance other = formatBalance raw) : other = raw := by
  obtain ⟨d, hparse, hvalue⟩ := parse_formatBalance raw
  obtain ⟨d', hparse', hvalue'⟩ := parse_formatBalance other
  rw [h, hparse] at hparse'
  cases hparse'
  have hunits := (baseUnits_eq_iff.2 hvalue').symm.trans (baseUnits_eq_iff.2 hvalue)
  exact Word.eq_of_val_eq (by exact_mod_cast hunits)

theorem formatBalance_canonical (raw : Word) :
    Canonical (formatBalance raw).toList ∧
      (∃ d, parse (formatBalance raw) = .ok d ∧ d.value = raw.val / 10 ^ 7 ∧
        (0 < raw.val → toBaseUnits d = .ok raw)) ∧
      ∀ other, formatBalance other = formatBalance raw → other = raw := by
  obtain ⟨d, hparse, hvalue⟩ := parse_formatBalance raw
  refine ⟨?_, ⟨d, hparse, hvalue, fun hpos => ?_⟩, fun other => formatBalance_inj⟩
  · rw [formatBalance, String.toList_ofList]
    exact canonical_balanceText raw.val
  · have hpositive : 0 < d.value := by
      rw [hvalue]
      positivity
    exact toBaseUnits_eq_ok_iff.2 ⟨hpositive, baseUnits_eq_iff.2 hvalue⟩

theorem formatBalance_canonical_dust :
    ∃ d, parse (formatBalance ⟨10 ^ 70 + 10, by decide⟩) = .ok d ∧
      toBaseUnits d = .ok ⟨10 ^ 70 + 10, by decide⟩ ∧ d.value = 10 ^ 63 + 1 / 10 ^ 6 := by
  obtain ⟨-, ⟨d, hparse, hvalue, hraw⟩, -⟩ := formatBalance_canonical ⟨10 ^ 70 + 10, by decide⟩
  refine ⟨d, hparse, hraw (by norm_num), hvalue.trans ?_⟩
  norm_num

theorem writes_format {amount : Decimal} (hleast : -2 ^ 63 ≤ amount.scale) (hmost : amount.scale < 2 ^ 63) :
    Writes (format amount).toList amount.value := by
  rw [format]
  cases hraw : toBaseUnits amount with
  | ok raw =>
    have hvalue := baseUnits_eq_iff.1 (toBaseUnits_eq_ok hraw).2
    rw [hvalue]
    exact writes_formatBalance raw
  | error e => exact Decimal.writes_text hleast hmost

theorem format_of_baseUnits {amount : Decimal} (hpos : 0 < raw.val) (h : baseUnits amount = raw.val) :
    format amount = formatBalance raw := by
  have hpositive : 0 < amount.value := by
    rw [baseUnits_eq_iff.1 h]
    positivity
  rw [format, toBaseUnits_eq_ok_iff.2 ⟨hpositive, h⟩]

theorem ofString?_of_writes {text : String} {v : ℚ} (h : Writes text.toList v) :
    ∃ d, Decimal.ofString? text = some d ∧ d.value = v := by
  obtain ⟨d, hliteral, hvalue⟩ := h
  exact ⟨d, Decimal.read_eq_some_iff.2 hliteral, hvalue⟩

theorem format_reads_back {amount : Decimal} (hleast : -2 ^ 63 ≤ amount.scale) (hmost : amount.scale < 2 ^ 63) :
    (∃ d, Decimal.ofString? (format amount) = some d ∧ d.value = amount.value) ∧
      (∀ raw : Word, 0 < raw.val → 10 ^ 7 * amount.value = raw.val → format amount = formatBalance raw) ∧
      ∀ balance requested available,
        Withdrawal.validateAmount amount balance = .error (.insufficientBalance requested available) →
          ∃ r a, Decimal.ofString? requested = some r ∧ Decimal.ofString? available = some a ∧
            a.value < r.value ∧ r.value = amount.value ∧ a.value = balance.val / 10 ^ 7 := by
  have hformat := writes_format hleast hmost
  refine ⟨ofString?_of_writes hformat, fun raw => format_of_baseUnits, fun balance requested available h => ?_⟩
  simp only [Withdrawal.validateAmount_eq_error_iff, reduceCtorEq, and_false, false_or,
    AmountError.insufficientBalance.injEq] at h
  obtain ⟨-, -, -, hshort, rfl, rfl⟩ := h
  obtain ⟨r, hr, hrvalue⟩ := ofString?_of_writes hformat
  obtain ⟨a, ha, havalue⟩ := ofString?_of_writes (writes_formatBalance balance)
  refine ⟨r, a, hr, ha, ?_, hrvalue, havalue⟩
  rw [← baseUnits_lt_iff, baseUnits_eq_iff.2 havalue, baseUnits_inj.2 hrvalue]
  exact hshort

theorem format_reads_back_beyond_words :
    Withdrawal.validateAmount ⟨1, -77⟩ ⟨5, by decide⟩ = .error (.insufficientBalance "1e+77" "0.0000005") ∧
      ∃ r a, Decimal.ofString? "1e+77" = some r ∧ Decimal.ofString? "0.0000005" = some a ∧
        a.value < r.value ∧ r.value = 10 ^ 77 ∧ a.value = 5 / 10 ^ 7 := by
  have hrefused : Withdrawal.validateAmount ⟨1, -77⟩ ⟨5, by decide⟩ =
      .error (.insufficientBalance "1e+77" "0.0000005") := by decide +kernel
  obtain ⟨-, -, hread⟩ := @format_reads_back ⟨1, -77⟩ (by norm_num) (by norm_num)
  obtain ⟨r, a, hr, ha, hlt, hrvalue, havalue⟩ := hread _ _ _ hrefused
  refine ⟨hrefused, r, a, hr, ha, hlt, hrvalue.trans ?_, havalue.trans ?_⟩
  · norm_num [Decimal.value]
  · norm_num

end TokenBridge.Amount
