import Mathlib.Algebra.Order.Field.Power
import Mathlib.Data.Rat.Cast.Order
import Mathlib.Tactic.NormNum
import Mathlib.Tactic.Ring
import TokenBridge.Decimal.Basic

namespace TokenBridge.Decimal

open Numeral (powerOfTen)

def value (d : Decimal) : ℚ :=
  d.digits * (10 : ℚ) ^ (-d.scale)

theorem powerOfTen_pos (n : ℕ) : 0 < powerOfTen n :=
  Nat.pow_pos (by norm_num)

theorem cast_powerOfTen (n : ℕ) : (powerOfTen n : ℚ) = (10 : ℚ) ^ (n : ℤ) := by
  rw [powerOfTen, Nat.pow_eq, zpow_natCast]
  norm_num

theorem ten_zpow_pos (n : ℤ) : (0 : ℚ) < 10 ^ n :=
  zpow_pos (by norm_num) n

theorem ten_zpow_add (m n : ℤ) : (10 : ℚ) ^ (m + n) = 10 ^ m * 10 ^ n :=
  zpow_add₀ (by norm_num) m n

theorem digits_eq_value_mul (d : Decimal) : (d.digits : ℚ) = d.value * 10 ^ d.scale := by
  rw [value, mul_assoc, ← ten_zpow_add, neg_add_cancel, zpow_zero, mul_one]

theorem digits_mul_powerOfTen (d : Decimal) (n : ℕ) :
    ((d.digits * powerOfTen n : ℤ) : ℚ) = d.value * 10 ^ (d.scale + n) := by
  calc
    ((d.digits * powerOfTen n : ℤ) : ℚ) = d.digits * 10 ^ (n : ℤ) := by
      push_cast [cast_powerOfTen]; rfl
    _ = d.value * 10 ^ d.scale * 10 ^ (n : ℤ) := by rw [digits_eq_value_mul]
    _ = d.value * 10 ^ (d.scale + n) := by rw [ten_zpow_add, mul_assoc]

theorem lt_iff_value_lt {a b : Decimal} : a.lt b ↔ a.value < b.value := by
  have hscale : a.scale + (b.scale - a.scale).toNat = b.scale + (a.scale - b.scale).toNat := by
    omega
  rw [lt, decide_eq_true_eq, ← Int.cast_lt (R := ℚ), digits_mul_powerOfTen, digits_mul_powerOfTen,
    hscale]
  exact mul_lt_mul_iff_of_pos_right (ten_zpow_pos _)

theorem value_pos_iff {d : Decimal} : 0 < d.value ↔ 0 < d.digits := by
  rw [value, mul_pos_iff_of_pos_right (ten_zpow_pos _), Int.cast_pos]

theorem value_shifted (d : Decimal) (places : ℕ) :
    (d.shifted places).value = 10 ^ places * d.value := by
  have hscale : -(d.scale - places) = (places : ℤ) + -d.scale := by ring
  rw [value, value, shifted, hscale, ten_zpow_add, zpow_natCast]
  exact mul_left_comm ..

theorem truncated_of_isInteger {d : Decimal} (h : d.isInteger) : (d.truncated : ℚ) = d.value := by
  rw [isInteger, Bool.or_eq_true, decide_eq_true_eq, decide_eq_true_eq] at h
  rw [truncated]
  split
  · next hs =>
    rw [digits_mul_powerOfTen]
    have : d.scale + ((-d.scale).toNat : ℤ) = 0 := by omega
    rw [this, zpow_zero, mul_one]
  · next hs =>
    have hdvd : (powerOfTen d.scale.toNat : ℤ) ∣ d.digits :=
      Int.dvd_of_emod_eq_zero (h.resolve_left hs)
    obtain ⟨k, hk⟩ := hdvd
    have hpos : (0 : ℤ) < powerOfTen d.scale.toNat := Int.natCast_pos.2 (powerOfTen_pos _)
    have hcancel : (10 : ℚ) ^ d.scale * 10 ^ (-d.scale) = 1 := by
      rw [← ten_zpow_add, add_neg_cancel, zpow_zero]
    have hcast : ((powerOfTen d.scale.toNat : ℤ) : ℚ) = 10 ^ d.scale := by
      rw [Int.cast_natCast, cast_powerOfTen, Int.toNat_of_nonneg (by omega)]
    rw [value, hk, Int.mul_tdiv_cancel_left _ hpos.ne', Int.cast_mul, hcast, mul_right_comm, hcancel,
      one_mul]

end TokenBridge.Decimal
