import TokenBridge.Proofs.Amount.BaseUnits
import TokenBridge.Proofs.Decimal.Literal

namespace TokenBridge.Amount

open Classical in
theorem checkMagnitude_eq_ite (amount : Decimal) :
    checkMagnitude amount =
      if ¬ ∃ n : ℤ, baseUnits amount = n then .error .excessPrecision
      else if 10 ^ 78 ≤ |amount.value| then .error (.malformed "amount out of range")
      else .ok () := by
  by_cases h : amount.digits = 0
  · have hvalue : amount.value = 0 := Decimal.value_eq_zero_iff.2 h
    have hwhole : ∃ n : ℤ, baseUnits amount = n := ⟨0, by simp [baseUnits, hvalue]⟩
    simp [checkMagnitude, Decimal.normalized_of_digits_eq_zero h, hwhole, hvalue]
  · have hsize := Decimal.abs_value_lt_iff (Decimal.digits_normalized_eq_zero_iff.not.2 h) maxIntegerDigits
    rw [Decimal.value_normalized] at hsize
    have hlarge : (10 : ℚ) ^ 78 ≤ |amount.value| ↔
        (maxIntegerDigits : ℤ) < Decimal.digitCount amount.normalized.digits.natAbs -
          amount.normalized.scale := by
      rw [← not_le, ← hsize, not_lt]
      rfl
    simp only [checkMagnitude_eq h, ← scale_normalized_le_iff h, hlarge, not_le]

theorem checkMagnitude_eq_ok_iff {amount : Decimal} :
    checkMagnitude amount = .ok () ↔ (∃ n : ℤ, baseUnits amount = n) ∧ |amount.value| < 10 ^ 78 := by
  rw [checkMagnitude_eq_ite]
  split_ifs <;> simp_all

theorem scales_fit {amount : Decimal}
    (h : amount.scale.natAbs + Decimal.digitCount amount.digits.natAbs + decimals < 2 ^ 63) :
    Decimal.scaleFits amount.normalized.scale ∧
      Decimal.fitsSigned 64 (Decimal.digitCount amount.normalized.digits.natAbs - amount.normalized.scale) ∧
      Decimal.scaleFits (amount.shifted decimals).scale := by
  have hshifted : Decimal.scaleFits (amount.shifted decimals).scale := by
    have hscale : (amount.shifted decimals).scale = amount.scale - decimals := rfl
    rw [Decimal.scaleFits_iff, hscale]
    omega
  by_cases hzero : amount.digits = 0
  · rw [Decimal.normalized_of_digits_eq_zero hzero]
    exact ⟨by decide, by decide, hshifted⟩
  · have hscale := Decimal.scale_normalized hzero
    have hfront := Decimal.digitCount_sub_scale_normalized hzero
    have hcount : 0 < Decimal.digitCount amount.normalized.digits.natAbs := Nat.length_toDigits_pos
    refine ⟨?_, ?_, hshifted⟩
    · rw [Decimal.scaleFits_iff]
      omega
    · rw [Decimal.fitsSigned_iff]
      omega

theorem value_lt_of_baseUnits_le {amount : Decimal} {raw : Word} (hle : baseUnits amount ≤ raw.val) :
    amount.value < 10 ^ 78 := by
  have hraw : (raw.val : ℚ) < 10 ^ 7 * 10 ^ 78 := by
    exact_mod_cast raw.val_lt.trans (by norm_num)
  exact lt_of_mul_lt_mul_left (hle.trans_lt hraw) (by positivity)

end TokenBridge.Amount
