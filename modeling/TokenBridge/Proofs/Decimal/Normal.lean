import TokenBridge.Proofs.Decimal.Value

namespace TokenBridge.Decimal

open Numeral (powerOfTen)

theorem powerOfTen_trailingZeros_dvd (n : ℕ) : powerOfTen (trailingZeros n) ∣ n := by
  induction n using Nat.strong_induction_on with
  | h n ih =>
    rw [trailingZeros]
    split
    · next h =>
      have hten : 10 * (n / 10) = n := Nat.mul_div_cancel' (Nat.dvd_of_mod_eq_zero h.2)
      have hdvd := Nat.mul_dvd_mul_left 10 (ih (n / 10) (by omega))
      rw [hten] at hdvd
      rwa [powerOfTen, Nat.pow_eq, Nat.pow_succ']
    · exact one_dvd n

theorem not_ten_dvd_div_trailingZeros {n : ℕ} (hn : n ≠ 0) :
    ¬ 10 ∣ n / powerOfTen (trailingZeros n) := by
  induction n using Nat.strong_induction_on with
  | h n ih =>
    rw [trailingZeros]
    split
    · next h =>
      have hstep : n / powerOfTen (trailingZeros (n / 10) + 1) =
          n / 10 / powerOfTen (trailingZeros (n / 10)) := by
        rw [Nat.div_div_eq_div_mul, powerOfTen, powerOfTen, Nat.pow_eq, Nat.pow_eq, Nat.pow_succ']
      rw [hstep]
      exact ih (n / 10) (by omega) (by omega)
    · next h =>
      have hone : powerOfTen 0 = 1 := rfl
      rw [hone, Nat.div_one]
      exact fun hdvd => h ⟨hn, Nat.mod_eq_zero_of_dvd hdvd⟩

theorem digits_normalized_mul {d : Decimal} (h : d.digits ≠ 0) :
    d.normalized.digits * powerOfTen (trailingZeros d.digits.natAbs) = d.digits := by
  rw [normalized, if_neg h]
  exact Int.ediv_mul_cancel (Int.natCast_dvd.2 (powerOfTen_trailingZeros_dvd _))

theorem scale_normalized {d : Decimal} (h : d.digits ≠ 0) :
    d.normalized.scale + trailingZeros d.digits.natAbs = d.scale := by
  rw [normalized, if_neg h]
  exact Int.sub_add_cancel ..

theorem normalized_of_digits_eq_zero {d : Decimal} (h : d.digits = 0) : d.normalized = ⟨0, 0⟩ :=
  if_pos h

theorem digits_normalized_eq_zero_iff {d : Decimal} : d.normalized.digits = 0 ↔ d.digits = 0 := by
  constructor
  · intro h
    by_contra hne
    have hmul := digits_normalized_mul hne
    rw [h, zero_mul] at hmul
    exact hne hmul.symm
  · intro h
    rw [normalized_of_digits_eq_zero h]

theorem not_ten_dvd_normalized {d : Decimal} (h : d.digits ≠ 0) : ¬ (10 : ℤ) ∣ d.normalized.digits := by
  have hmul := congrArg Int.natAbs (digits_normalized_mul h)
  rw [Int.natAbs_mul, Int.natAbs_natCast] at hmul
  rw [← Nat.cast_ofNat, Int.natCast_dvd, Nat.eq_div_of_mul_eq_left (powerOfTen_pos _).ne' hmul]
  exact not_ten_dvd_div_trailingZeros (Int.natAbs_ne_zero.2 h)

theorem value_normalized (d : Decimal) : d.normalized.value = d.value := by
  by_cases h : d.digits = 0
  · rw [normalized_of_digits_eq_zero h, value, value, h, Int.cast_zero, zero_mul, zero_mul]
  · have hmul := digits_mul_powerOfTen d.normalized (trailingZeros d.digits.natAbs)
    rw [digits_normalized_mul h, scale_normalized h, digits_eq_value_mul] at hmul
    exact (mul_right_cancel₀ (ten_zpow_pos _).ne' hmul).symm

theorem scale_le_of_value_eq {a b : Decimal} (ha : ¬ (10 : ℤ) ∣ a.digits) (h : a.value = b.value) :
    a.scale ≤ b.scale := by
  by_contra! hlt
  obtain ⟨n, hn⟩ := Int.le.dest hlt
  have hscale : b.scale + (n + 1 : ℕ) = a.scale := by
    push_cast
    omega
  have hdigits : a.digits = b.digits * powerOfTen (n + 1) := by
    have hcast := digits_mul_powerOfTen b (n + 1)
    rw [← h, hscale, ← digits_eq_value_mul] at hcast
    exact (Int.cast_injective hcast).symm
  have hten : (10 : ℤ) ∣ powerOfTen (n + 1) := by
    rw [powerOfTen, Nat.pow_eq, Nat.pow_succ, Nat.cast_mul]
    exact dvd_mul_left _ _
  exact ha (hdigits ▸ hten.mul_left b.digits)

theorem value_eq_zero_iff {d : Decimal} : d.value = 0 ↔ d.digits = 0 := by
  rw [value, mul_eq_zero_iff_right (ten_zpow_pos _).ne', Int.cast_eq_zero]

theorem normalized_eq_of_value_eq {a b : Decimal} (h : a.value = b.value) :
    a.normalized = b.normalized := by
  by_cases ha : a.digits = 0
  · have hb : b.digits = 0 := by rw [← value_eq_zero_iff, ← h, value_eq_zero_iff, ha]
    rw [normalized_of_digits_eq_zero ha, normalized_of_digits_eq_zero hb]
  · have hb : b.digits ≠ 0 := by rwa [ne_eq, ← value_eq_zero_iff, ← h, value_eq_zero_iff]
    have hvalue : a.normalized.value = b.normalized.value := by
      rw [value_normalized, value_normalized, h]
    have hscale : a.normalized.scale = b.normalized.scale :=
      le_antisymm (scale_le_of_value_eq (not_ten_dvd_normalized ha) hvalue)
        (scale_le_of_value_eq (not_ten_dvd_normalized hb) hvalue.symm)
    have hdigits : a.normalized.digits = b.normalized.digits := by
      rw [value, value, hscale] at hvalue
      exact Int.cast_injective (mul_right_cancel₀ (ten_zpow_pos _).ne' hvalue)
    exact congrArg₂ Decimal.mk hdigits hscale

theorem digitCount_le_iff {n k : ℕ} (hk : 0 < k) : digitCount n ≤ k ↔ n < 10 ^ k :=
  Nat.length_toDigits_le_iff (by norm_num) hk

theorem abs_value (d : Decimal) : |d.value| = d.digits.natAbs * 10 ^ (-d.scale) := by
  rw [value, abs_mul, abs_of_pos (ten_zpow_pos _), ← Int.cast_abs, Int.abs_eq_natAbs, Int.cast_natCast]

theorem abs_value_lt_iff {d : Decimal} (h : d.digits ≠ 0) (k : ℤ) :
    |d.value| < 10 ^ k ↔ digitCount d.digits.natAbs - d.scale ≤ k := by
  have hcount : 0 < digitCount d.digits.natAbs := Nat.length_toDigits_pos
  have hdigits : 1 ≤ d.digits.natAbs := Int.natAbs_pos.2 h
  have hpow : |d.value| < 10 ^ k ↔ (d.digits.natAbs : ℚ) < 10 ^ (k + d.scale) := by
    have hk : (10 : ℚ) ^ k = 10 ^ (k + d.scale) * 10 ^ (-d.scale) := by
      rw [← ten_zpow_add, add_neg_cancel_right]
    rw [abs_value, hk]
    exact mul_lt_mul_iff_of_pos_right (ten_zpow_pos _)
  rw [hpow]
  rcases le_or_gt (k + d.scale) 0 with hle | hlt
  · have hone : (10 : ℚ) ^ (k + d.scale) ≤ d.digits.natAbs :=
      (zpow_le_one_of_nonpos₀ (by norm_num) hle).trans (by exact_mod_cast hdigits)
    constructor
    · intro hlt
      exact absurd hlt (not_lt.2 hone)
    · intro hle
      omega
  · obtain ⟨n, hn⟩ := Int.eq_ofNat_of_zero_le hlt.le
    have hnat : (d.digits.natAbs : ℚ) < 10 ^ (k + d.scale) ↔ d.digits.natAbs < 10 ^ n := by
      rw [hn, zpow_natCast]
      exact_mod_cast Iff.rfl
    rw [hnat, ← digitCount_le_iff (by omega)]
    omega

theorem digitCount_sub_scale_normalized {d : Decimal} (h : d.digits ≠ 0) :
    digitCount d.normalized.digits.natAbs - d.normalized.scale = digitCount d.digits.natAbs - d.scale := by
  have hsame : ∀ k : ℤ, digitCount d.normalized.digits.natAbs - d.normalized.scale ≤ k ↔
      digitCount d.digits.natAbs - d.scale ≤ k := by
    intro k
    rw [← abs_value_lt_iff (digits_normalized_eq_zero_iff.not.2 h), ← abs_value_lt_iff h, value_normalized]
  exact le_antisymm ((hsame _).2 le_rfl) ((hsame _).1 le_rfl)

theorem isInteger_iff {d : Decimal} : d.isInteger ↔ ∃ n : ℤ, d.value = n := by
  constructor
  · exact fun h => ⟨d.truncated, (truncated_of_isInteger h).symm⟩
  · rintro ⟨n, hn⟩
    rw [isInteger, Bool.or_eq_true, decide_eq_true_eq, decide_eq_true_eq]
    rcases le_or_gt d.scale 0 with hs | hs
    · exact .inl hs
    · refine .inr (Int.emod_eq_zero_of_dvd ⟨n, ?_⟩)
      have hcast := digits_mul_powerOfTen ⟨n, 0⟩ d.scale.toNat
      have hvalue : (⟨n, 0⟩ : Decimal).value = d.value := by rw [hn, value, neg_zero, zpow_zero, mul_one]
      rw [hvalue, zero_add, Int.toNat_of_nonneg hs.le, ← digits_eq_value_mul] at hcast
      rw [mul_comm]
      exact (Int.cast_injective hcast).symm

end TokenBridge.Decimal
