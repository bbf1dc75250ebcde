import TokenBridge.Amount
import TokenBridge.Proofs.Decimal.Normal

namespace TokenBridge.Amount

def baseUnits (amount : Decimal) : ℚ :=
  10 ^ decimals * amount.value

theorem baseUnits_mk (n : ℤ) : baseUnits ⟨n, decimals⟩ = n := by
  rw [baseUnits, mul_comm]
  exact (Decimal.digits_eq_value_mul ⟨n, decimals⟩).symm

theorem baseUnits_ofBaseUnits (raw : Word) : baseUnits (ofBaseUnits raw) = raw.val :=
  baseUnits_mk raw.val

theorem baseUnits_lt_iff {a b : Decimal} : baseUnits a < baseUnits b ↔ a.value < b.value :=
  mul_lt_mul_iff_of_pos_left (pow_pos (by norm_num) _)

theorem baseUnits_inj {a b : Decimal} : baseUnits a = baseUnits b ↔ a.value = b.value :=
  mul_right_inj' (pow_ne_zero _ (by norm_num))

variable {amount other : Decimal}

theorem value_shifted_decimals (amount : Decimal) : (amount.shifted decimals).value = baseUnits amount :=
  Decimal.value_shifted amount decimals

theorem isInteger_shifted_iff : (amount.shifted decimals).isInteger ↔ ∃ n : ℤ, baseUnits amount = n := by
  rw [Decimal.isInteger_iff, value_shifted_decimals]

theorem scale_normalized_le_iff (h : amount.digits ≠ 0) :
    amount.normalized.scale ≤ decimals ↔ ∃ n : ℤ, baseUnits amount = n := by
  have hunits : baseUnits amount.normalized = baseUnits amount :=
    baseUnits_inj.2 (Decimal.value_normalized amount)
  constructor
  · intro hle
    rw [← hunits, ← isInteger_shifted_iff, Decimal.isInteger, Bool.or_eq_true, decide_eq_true_eq]
    exact .inl (Int.sub_nonpos_of_le hle)
  · rintro ⟨n, hn⟩
    have hvalue : amount.normalized.value = (⟨n, decimals⟩ : Decimal).value := by
      rw [← baseUnits_inj, hunits, hn, baseUnits_mk]
    exact Decimal.scale_le_of_value_eq (Decimal.not_ten_dvd_normalized h) hvalue

theorem lt_baseUnits_of_digitCount (h : 0 < amount.digits)
    (hcount : maxIntegerDigits < Decimal.digitCount amount.normalized.digits.natAbs -
      amount.normalized.scale) : (2 : ℚ) ^ 256 < baseUnits amount := by
  have hnormal : amount.normalized.digits ≠ 0 := Decimal.digits_normalized_eq_zero_iff.not.2 h.ne'
  have hpow := (Decimal.abs_value_lt_iff hnormal maxIntegerDigits).not.2 (not_le.2 hcount)
  rw [Decimal.value_normalized, abs_of_pos (Decimal.value_pos_iff.2 h), not_lt] at hpow
  calc
    (2 : ℚ) ^ 256 < 10 ^ decimals * 10 ^ (maxIntegerDigits : ℤ) := by
      norm_num [decimals, maxIntegerDigits]
    _ ≤ baseUnits amount := mul_le_mul_of_nonneg_left hpow (by positivity)

theorem checkMagnitude_congr {a b : Decimal} (h : a.value = b.value) :
    checkMagnitude a = checkMagnitude b := by
  rw [checkMagnitude, checkMagnitude, Decimal.normalized_eq_of_value_eq h]

/-- The answers that a number may get, each with what must be true of the number. -/
inductive Verdict (amount : Decimal) : Except AmountError Word → Prop
  | nonPositive : amount.value ≤ 0 → Verdict amount (.error .nonPositive)
  | excessPrecision :
      0 < amount.value → (¬ ∃ n : ℤ, baseUnits amount = n) → Verdict amount (.error .excessPrecision)
  | tooLarge (text : String) {n : ℕ} :
      0 < amount.value → baseUnits amount = n → 2 ^ 256 ≤ n → Verdict amount (.error (.malformed text))
  | exactly {raw : Word} :
      0 < amount.value → baseUnits amount = raw.val → Verdict amount (.ok raw)

theorem baseUnits_pos (h : 0 < amount.value) : 0 < baseUnits amount :=
  mul_pos (by positivity) h

theorem exists_nat_of_whole {n : ℤ} (hpos : 0 < amount.value) (hn : baseUnits amount = n) :
    ∃ k : ℕ, n = k ∧ baseUnits amount = k := by
  have h := baseUnits_pos hpos
  rw [hn, Int.cast_pos] at h
  obtain ⟨k, rfl⟩ := Int.eq_ofNat_of_zero_le h.le
  exact ⟨k, rfl, hn⟩

theorem checkMagnitude_eq (h : amount.digits ≠ 0) :
    checkMagnitude amount =
      if (decimals : ℤ) < amount.normalized.scale then .error .excessPrecision
      else if maxIntegerDigits < Decimal.digitCount amount.normalized.digits.natAbs -
          amount.normalized.scale then .error (.malformed "amount out of range")
      else .ok () := by
  rw [checkMagnitude, if_neg (Decimal.digits_normalized_eq_zero_iff.not.2 h)]

theorem verdict_of_whole {k : ℕ} (hpos : 0 < amount.value) (hk : baseUnits amount = k) :
    Verdict amount (toBaseUnits amount) := by
  have hdigits : 0 < amount.digits := Decimal.value_pos_iff.1 hpos
  have hscale : ¬ (decimals : ℤ) < amount.normalized.scale :=
    not_lt.2 ((scale_normalized_le_iff hdigits.ne').2 ⟨k, hk⟩)
  have hint : (amount.shifted decimals).isInteger := isInteger_shifted_iff.2 ⟨k, hk⟩
  have htruncated : (amount.shifted decimals).truncated = k := by
    have hvalue := Decimal.truncated_of_isInteger hint
    rw [value_shifted_decimals, hk] at hvalue
    exact_mod_cast hvalue
  rw [toBaseUnits, if_neg (not_le.2 hdigits), checkMagnitude_eq hdigits.ne', if_neg hscale]
  split
  · next hcount =>
    have hlt := lt_baseUnits_of_digitCount hdigits hcount
    rw [hk] at hlt
    exact .tooLarge _ hpos hk (by exact_mod_cast hlt.le)
  · simp only [bind, Except.bind, hint, Bool.not_true, Bool.false_eq_true, if_false, htruncated,
      Int.toNat_natCast]
    cases hword : Word.ofNat? k with
    | some raw =>
      refine .exactly hpos ?_
      rw [hk, Word.ofNat?_eq_some_iff.1 hword]
    | none => exact .tooLarge _ hpos hk (Word.ofNat?_eq_none_iff.1 hword)

theorem verdict_toBaseUnits (amount : Decimal) : Verdict amount (toBaseUnits amount) := by
  by_cases hpos : 0 < amount.value
  · by_cases hwhole : ∃ n : ℤ, baseUnits amount = n
    · obtain ⟨n, hn⟩ := hwhole
      obtain ⟨k, rfl, hk⟩ := exists_nat_of_whole hpos hn
      exact verdict_of_whole hpos hk
    · have hdigits : 0 < amount.digits := Decimal.value_pos_iff.1 hpos
      have hscale : (decimals : ℤ) < amount.normalized.scale :=
        not_le.1 ((scale_normalized_le_iff hdigits.ne').not.2 hwhole)
      rw [toBaseUnits, if_neg (not_le.2 hdigits), checkMagnitude_eq hdigits.ne', if_pos hscale]
      exact .excessPrecision hpos hwhole
  · have hdigits : amount.digits ≤ 0 := not_lt.1 (Decimal.value_pos_iff.not.1 hpos)
    rw [toBaseUnits, if_pos hdigits]
    exact .nonPositive (not_lt.1 hpos)

theorem toBaseUnits_congr (h : other.value = amount.value) : toBaseUnits other = toBaseUnits amount := by
  have hsign : (other.digits ≤ 0) = (amount.digits ≤ 0) := by
    rw [← not_lt, ← not_lt, ← Decimal.value_pos_iff, ← Decimal.value_pos_iff, h]
  have hint : (other.shifted decimals).isInteger = (amount.shifted decimals).isInteger := by
    rw [Bool.eq_iff_iff, isInteger_shifted_iff, isInteger_shifted_iff, baseUnits_inj.2 h]
  simp only [toBaseUnits, hsign, checkMagnitude_congr h, hint]
  by_cases hwhole : (amount.shifted decimals).isInteger
  · have htruncated : (other.shifted decimals).truncated = (amount.shifted decimals).truncated := by
      rw [← Int.cast_inj (α := ℚ), Decimal.truncated_of_isInteger (hint ▸ hwhole),
        Decimal.truncated_of_isInteger hwhole, value_shifted_decimals, value_shifted_decimals,
        baseUnits_inj.2 h]
    rw [htruncated]
  · have hfraction : (amount.shifted decimals).isInteger = false := Bool.eq_false_iff.2 hwhole
    simp only [hfraction, Bool.not_false, if_true]

theorem toBaseUnits_eq_ok_iff {raw : Word} :
    toBaseUnits amount = .ok raw ↔ 0 < amount.value ∧ baseUnits amount = raw.val := by
  have hv := verdict_toBaseUnits amount
  constructor
  · intro h
    rw [h] at hv
    cases hv with
    | exactly hpos hunits => exact ⟨hpos, hunits⟩
  · rintro ⟨hpos, hunits⟩
    generalize toBaseUnits amount = answer at hv
    cases hv with
    | nonPositive hle => exact absurd hpos (not_lt.2 hle)
    | excessPrecision _ hfraction => exact absurd ⟨raw.val, hunits⟩ hfraction
    | tooLarge text _ hn hlarge =>
      rw [hunits, Nat.cast_inj] at hn
      exact absurd raw.val_lt (Nat.not_lt.2 (hn ▸ hlarge))
    | exactly _ hraw =>
      rw [hunits, Nat.cast_inj] at hraw
      exact congrArg _ (Word.eq_of_val_eq hraw.symm)

theorem toBaseUnits_eq_ok {raw : Word} (h : toBaseUnits amount = .ok raw) :
    0 < raw.val ∧ baseUnits amount = raw.val := by
  obtain ⟨hpos, hunits⟩ := toBaseUnits_eq_ok_iff.1 h
  have hraw := baseUnits_pos hpos
  rw [hunits, Nat.cast_pos] at hraw
  exact ⟨hraw, hunits⟩

theorem toBaseUnits_eq_nonPositive_iff :
    toBaseUnits amount = .error .nonPositive ↔ amount.value ≤ 0 := by
  have hv := verdict_toBaseUnits amount
  constructor
  · intro h
    rw [h] at hv
    cases hv with
    | nonPositive hle => exact hle
  · intro hle
    rw [toBaseUnits, if_pos]
    exact not_lt.1 fun hdigits => absurd (Decimal.value_pos_iff.2 hdigits) (not_lt.2 hle)

theorem toBaseUnits_eq_excessPrecision_iff :
    toBaseUnits amount = .error .excessPrecision ↔
      0 < amount.value ∧ ¬ ∃ n : ℤ, baseUnits amount = n := by
  have hv := verdict_toBaseUnits amount
  constructor
  · intro h
    rw [h] at hv
    cases hv with
    | excessPrecision hpos hfraction => exact ⟨hpos, hfraction⟩
  · rintro ⟨hpos, hfraction⟩
    generalize toBaseUnits amount = answer at hv
    cases hv with
    | nonPositive hle => exact absurd hpos (not_lt.2 hle)
    | excessPrecision => rfl
    | tooLarge text _ hn _ => exact absurd ⟨_, hn⟩ hfraction
    | exactly _ hraw => exact absurd ⟨_, hraw⟩ hfraction

theorem toBaseUnits_eq_malformed_iff :
    (∃ text, toBaseUnits amount = .error (.malformed text)) ↔
      0 < amount.value ∧ ∃ n : ℕ, baseUnits amount = n ∧ 2 ^ 256 ≤ n := by
  have hv := verdict_toBaseUnits amount
  constructor
  · rintro ⟨text, h⟩
    rw [h] at hv
    cases hv with
    | tooLarge _ hpos hn hlarge => exact ⟨hpos, _, hn, hlarge⟩
  · rintro ⟨hpos, n, hn, hlarge⟩
    generalize toBaseUnits amount = answer at hv
    cases hv with
    | nonPositive hle => exact absurd hpos (not_lt.2 hle)
    | excessPrecision _ hfraction => exact absurd ⟨n, hn⟩ hfraction
    | tooLarge text => exact ⟨text, rfl⟩
    | exactly _ hraw =>
      rw [hn, Nat.cast_inj] at hraw
      exact absurd (Word.val_lt _) (Nat.not_lt.2 (hraw ▸ hlarge))

theorem toBaseUnits_exact (amount : Decimal) :
    (∀ r : ℕ, (∃ raw, toBaseUnits amount = .ok raw ∧ raw.val = r) ↔
        0 < amount.value ∧ 10 ^ decimals * amount.value = r ∧ r < 2 ^ 256) ∧
      (toBaseUnits amount = .error .nonPositive ↔ amount.value ≤ 0) ∧
      (toBaseUnits amount = .error .excessPrecision ↔
        0 < amount.value ∧ ¬ ∃ n : ℤ, 10 ^ decimals * amount.value = n) ∧
      ((∃ text, toBaseUnits amount = .error (.malformed text)) ↔
        0 < amount.value ∧ ∃ n : ℕ, 10 ^ decimals * amount.value = n ∧ 2 ^ 256 ≤ n) ∧
      (∀ other : Decimal, other.value = amount.value → toBaseUnits other = toBaseUnits amount) ∧
      (∀ raw : Word, 0 < raw.val → toBaseUnits (ofBaseUnits raw) = .ok raw) ∧
      ∀ raw, toBaseUnits amount = .ok raw → (ofBaseUnits raw).value = amount.value := by
  refine ⟨fun r => ?_, toBaseUnits_eq_nonPositive_iff, toBaseUnits_eq_excessPrecision_iff,
    toBaseUnits_eq_malformed_iff, fun other => toBaseUnits_congr, fun raw hraw => ?_, fun raw h => ?_⟩
  · constructor
    · rintro ⟨raw, h, rfl⟩
      obtain ⟨hpos, hunits⟩ := toBaseUnits_eq_ok_iff.1 h
      exact ⟨hpos, hunits, raw.val_lt⟩
    · rintro ⟨hpos, hunits, hlt⟩
      exact ⟨⟨r, hlt⟩, toBaseUnits_eq_ok_iff.2 ⟨hpos, hunits⟩, rfl⟩
  · refine toBaseUnits_eq_ok_iff.2 ⟨Decimal.value_pos_iff.2 ?_, baseUnits_ofBaseUnits raw⟩
    exact Int.natCast_pos.2 hraw
  · rw [← baseUnits_inj, baseUnits_ofBaseUnits, (toBaseUnits_eq_ok_iff.1 h).2]

theorem toBaseUnits_exact_largest :
    ∃ raw, toBaseUnits ⟨(2 ^ 256 - 1) * 10 ^ 30, 37⟩ = .ok raw ∧ raw.val = 2 ^ 256 - 1 := by
  refine ((toBaseUnits_exact _).1 _).2 ⟨?_, ?_, ?_⟩
  · norm_num [Decimal.value]
  · norm_num [Decimal.value, decimals]
  · norm_num

end TokenBridge.Amount
