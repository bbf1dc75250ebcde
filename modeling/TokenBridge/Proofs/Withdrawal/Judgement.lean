import TokenBridge.Proofs.Amount.Magnitude
import TokenBridge.Withdrawal.Amount

namespace TokenBridge.Withdrawal

open Amount (baseUnits)

variable {amount : Decimal} {balance : Word}

theorem lt_ofBaseUnits_iff : (Amount.ofBaseUnits balance).lt amount ↔ (balance.val : ℚ) < baseUnits amount := by
  rw [Decimal.lt_iff_value_lt, ← Amount.baseUnits_lt_iff, Amount.baseUnits_ofBaseUnits]

theorem toBaseUnits_of_covered (hpos : 0 < amount.value) (hwhole : ∃ n : ℤ, baseUnits amount = n)
    (hle : baseUnits amount ≤ balance.val) :
    ∃ raw, Amount.toBaseUnits amount = .ok raw ∧ baseUnits amount = raw.val ∧ raw.val ≤ balance.val := by
  obtain ⟨n, hn⟩ := hwhole
  obtain ⟨k, rfl, hk⟩ := Amount.exists_nat_of_whole hpos hn
  rw [hk, Nat.cast_le] at hle
  exact ⟨⟨k, hle.trans_lt balance.val_lt⟩, Amount.toBaseUnits_eq_ok_iff.2 ⟨hpos, hk⟩, hk, hle⟩

open Classical in
theorem validateAmount_eq_ite (amount : Decimal) (balance : Word) :
    validateAmount amount balance =
      if amount.value ≤ 0 then .error .nonPositive
      else if ¬ ∃ n : ℤ, baseUnits amount = n then .error .excessPrecision
      else if 10 ^ 78 ≤ amount.value then .error (.malformed "amount out of range")
      else if (balance.val : ℚ) < baseUnits amount then
        .error (.insufficientBalance (Amount.format amount) (Amount.formatBalance balance))
      else (Amount.toBaseUnits amount).map (ValidAmount.mk amount) := by
  have hsign : amount.digits ≤ 0 ↔ amount.value ≤ 0 := by
    rw [← not_lt, ← not_lt, Decimal.value_pos_iff]
  by_cases hpos : amount.value ≤ 0
  · rw [validateAmount, if_pos (hsign.2 hpos), if_pos hpos]
  · have habs : |amount.value| = amount.value := abs_of_pos (not_le.1 hpos)
    rw [validateAmount, if_neg (hsign.not.2 hpos), if_neg hpos, Amount.checkMagnitude_eq_ite, habs]
    simp only [lt_ofBaseUnits_iff]
    split_ifs <;> rfl

theorem validateAmount_eq_ok_iff {v : ValidAmount} :
    validateAmount amount balance = .ok v ↔
      v.amount = amount ∧ 0 < amount.value ∧ baseUnits amount = v.raw.val ∧ v.raw.val ≤ balance.val := by
  constructor
  · intro h
    rw [validateAmount_eq_ite] at h
    split_ifs at h with hsign hwhole hlarge hshort
    obtain ⟨raw, hraw, hunits, hle⟩ := toBaseUnits_of_covered (not_le.1 hsign) hwhole (not_lt.1 hshort)
    rw [hraw] at h
    cases h
    exact ⟨rfl, not_le.1 hsign, hunits, hle⟩
  · rintro ⟨rfl, hpos, hunits, hle⟩
    have hcovered : baseUnits v.amount ≤ balance.val := by
      rw [hunits]
      exact_mod_cast hle
    have hwhole : ∃ n : ℤ, baseUnits v.amount = n := ⟨v.raw.val, hunits⟩
    rw [validateAmount_eq_ite, if_neg (not_le.2 hpos), if_neg (not_not.2 hwhole),
      if_neg (not_le.2 (Amount.value_lt_of_baseUnits_le hcovered)), if_neg (not_lt.2 hcovered),
      Amount.toBaseUnits_eq_ok_iff.2 ⟨hpos, hunits⟩]
    rfl

theorem validateAmount_eq_ok {v : ValidAmount} (h : validateAmount amount balance = .ok v) :
    v.amount = amount ∧ Amount.toBaseUnits amount = .ok v.raw ∧ 0 < v.raw.val ∧
      v.raw.val ≤ balance.val ∧ baseUnits amount = v.raw.val := by
  obtain ⟨hamount, hpos, hunits, hle⟩ := validateAmount_eq_ok_iff.1 h
  have hraw := Amount.toBaseUnits_eq_ok_iff.2 ⟨hpos, hunits⟩
  exact ⟨hamount, hraw, (Amount.toBaseUnits_eq_ok hraw).1, hle, hunits⟩

theorem validateInput_eq_ok {input : String} {v : ValidAmount} (h : validateInput input balance = .ok v) :
    Amount.parse input = .ok v.amount ∧ validateAmount v.amount balance = .ok v := by
  rw [validateInput] at h
  cases hp : Amount.parse input with
  | error e =>
    rw [hp] at h
    cases h
  | ok amount =>
    rw [hp] at h
    have hv : validateAmount amount balance = .ok v := h
    obtain rfl := (validateAmount_eq_ok hv).1
    exact ⟨rfl, hv⟩

theorem exists_validateAmount_eq_ok_iff :
    (∃ v, validateAmount amount balance = .ok v) ↔
      0 < amount.value ∧ (∃ n : ℤ, baseUnits amount = n) ∧ baseUnits amount ≤ balance.val := by
  constructor
  · rintro ⟨v, h⟩
    obtain ⟨-, hpos, hunits, hle⟩ := validateAmount_eq_ok_iff.1 h
    refine ⟨hpos, ⟨v.raw.val, hunits⟩, ?_⟩
    rw [hunits]
    exact_mod_cast hle
  · rintro ⟨hpos, hwhole, hle⟩
    obtain ⟨raw, -, hunits, hcovered⟩ := toBaseUnits_of_covered hpos hwhole hle
    exact ⟨⟨amount, raw⟩, validateAmount_eq_ok_iff.2 ⟨rfl, hpos, hunits, hcovered⟩⟩

theorem validateAmount_eq_error_iff {e : AmountError} :
    validateAmount amount balance = .error e ↔
      (amount.value ≤ 0 ∧ e = .nonPositive) ∨
      (0 < amount.value ∧ (¬ ∃ n : ℤ, baseUnits amount = n) ∧ e = .excessPrecision) ∨
      (0 < amount.value ∧ (∃ n : ℤ, baseUnits amount = n) ∧ 10 ^ 78 ≤ amount.value ∧
        e = .malformed "amount out of range") ∨
      (0 < amount.value ∧ (∃ n : ℤ, baseUnits amount = n) ∧ amount.value < 10 ^ 78 ∧
        balance.val < baseUnits amount ∧
        e = .insufficientBalance (Amount.format amount) (Amount.formatBalance balance)) := by
  rw [validateAmount_eq_ite]
  split_ifs with hsign hwhole hlarge hshort
  · simp [hsign, not_lt.2 hsign, eq_comm (a := e)]
  · simp [not_le.1 hsign, hsign, hwhole, hlarge, not_lt.2 hlarge, eq_comm (a := e)]
  · simp [not_le.1 hsign, hsign, hwhole, hlarge, not_le.1 hlarge, hshort, eq_comm (a := e)]
  · obtain ⟨raw, hraw, -, -⟩ := toBaseUnits_of_covered (not_le.1 hsign) hwhole (not_lt.1 hshort)
    simp [hraw, Except.map, hsign, hwhole, hlarge, hshort]
  · simp [not_le.1 hsign, hsign, hwhole, eq_comm (a := e)]

theorem validateAmount_decides (amount : Decimal) (balance : Word) :
    (validateAmount amount balance = .error .nonPositive ↔ amount.value ≤ 0) ∧
      (validateAmount amount balance = .error .excessPrecision ↔
        0 < amount.value ∧ ¬ ∃ n : ℤ, 10 ^ 7 * amount.value = n) ∧
      (∀ text, validateAmount amount balance = .error (.malformed text) ↔
        0 < amount.value ∧ (∃ n : ℤ, 10 ^ 7 * amount.value = n) ∧ 10 ^ 78 ≤ amount.value ∧
          text = "amount out of range") ∧
      (∀ requested available,
        validateAmount amount balance = .error (.insufficientBalance requested available) ↔
          0 < amount.value ∧ (∃ n : ℤ, 10 ^ 7 * amount.value = n) ∧ amount.value < 10 ^ 78 ∧
            balance.val < 10 ^ 7 * amount.value ∧
            requested = Amount.format amount ∧ available = Amount.formatBalance balance) ∧
      ((∃ v, validateAmount amount balance = .ok v) ↔
        0 < amount.value ∧ (∃ n : ℤ, 10 ^ 7 * amount.value = n) ∧ amount.value < 10 ^ 78 ∧
          10 ^ 7 * amount.value ≤ balance.val) ∧
      (∀ v, validateAmount amount balance = .ok v →
        v.amount = amount ∧ (v.raw.val : ℚ) = 10 ^ 7 * amount.value) ∧
      (0 < amount.digits → Amount.checkMagnitude amount = .ok () →
        (Amount.ofBaseUnits balance).lt amount = false → ∃ raw, Amount.toBaseUnits amount = .ok raw) ∧
      ∀ larger : Word, balance.val ≤ larger.val → ∀ v, validateAmount amount balance = .ok v →
        validateAmount amount larger = .ok v := by
  refine ⟨?_, ?_, fun text => ?_, fun requested available => ?_, ?_, fun v h => ?_, fun hpos hsize hle => ?_,
    fun larger hlarger v h => ?_⟩
  · simp [validateAmount_eq_error_iff]
  · simp [validateAmount_eq_error_iff, baseUnits, Amount.decimals]
  · simp [validateAmount_eq_error_iff, baseUnits, Amount.decimals]
  · simp [validateAmount_eq_error_iff, baseUnits, Amount.decimals]
  · rw [exists_validateAmount_eq_ok_iff]
    constructor
    · rintro ⟨hpos, hwhole, hle⟩
      exact ⟨hpos, hwhole, Amount.value_lt_of_baseUnits_le hle, hle⟩
    · rintro ⟨hpos, hwhole, -, hle⟩
      exact ⟨hpos, hwhole, hle⟩
  · obtain ⟨hamount, -, hraw, -⟩ := validateAmount_eq_ok_iff.1 h
    exact ⟨hamount, hraw.symm⟩
  · have hcovered := lt_ofBaseUnits_iff.not.1 (Bool.eq_false_iff.1 hle)
    obtain ⟨raw, hraw, -, -⟩ := toBaseUnits_of_covered (Decimal.value_pos_iff.2 hpos)
      (Amount.checkMagnitude_eq_ok_iff.1 hsize).1 (not_lt.1 hcovered)
    exact ⟨raw, hraw⟩
  · obtain ⟨hamount, hpos, hraw, hle⟩ := validateAmount_eq_ok_iff.1 h
    exact validateAmount_eq_ok_iff.2 ⟨hamount, hpos, hraw, hle.trans hlarger⟩

theorem validateAmount_decides_whole_balance :
    ∃ v, validateAmount ⟨1000, 2⟩ ⟨100000000, by decide⟩ = .ok v ∧ v.raw.val = 100000000 ∧
      validateAmount ⟨1000, 2⟩ ⟨200000000, by decide⟩ = .ok v ∧
      validateAmount ⟨1000, 2⟩ ⟨99999999, by decide⟩ = .error (.insufficientBalance "10" "9.9999999") := by
  have hvalue : (⟨1000, 2⟩ : Decimal).value = 10 := by norm_num [Decimal.value]
  have hwhole : ∃ n : ℤ, 10 ^ 7 * (⟨1000, 2⟩ : Decimal).value = n := ⟨100000000, by norm_num [hvalue]⟩
  obtain ⟨-, -, -, -, hcovered, hexact, -, hlarger⟩ :=
    validateAmount_decides ⟨1000, 2⟩ ⟨100000000, by decide⟩
  obtain ⟨v, hv⟩ := hcovered.2 ⟨by norm_num [hvalue], hwhole, by norm_num [hvalue], by norm_num [hvalue]⟩
  have hshort := (validateAmount_decides ⟨1000, 2⟩ ⟨99999999, by decide⟩).2.2.2.1 "10" "9.9999999"
  refine ⟨v, hv, ?_, hlarger _ (by norm_num) v hv, hshort.2 ⟨?_, hwhole, ?_, ?_, ?_, ?_⟩⟩
  · have hraw := (hexact v hv).2
    rw [hvalue] at hraw
    norm_num at hraw
    exact_mod_cast hraw
  · norm_num [hvalue]
  · norm_num [hvalue]
  · norm_num [hvalue]
  · decide +kernel
  · decide +kernel

end TokenBridge.Withdrawal
