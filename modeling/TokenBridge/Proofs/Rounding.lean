import TokenBridge.Rounding
import Mathlib.Tactic.Linarith
import Mathlib.Tactic.Ring

namespace TokenBridge.Rounding

variable {n : ℕ}

theorem spacing_pos (n : ℕ) : 0 < spacing n :=
  Nat.pow_pos (by decide)

theorem spacing_eq_one (h : n < 2 ^ 53) : spacing n = 1 := by
  have hlog : n.log2 < 53 := by
    rcases n.eq_zero_or_pos with rfl | hpos
    · decide
    · exact (Nat.log2_lt hpos.ne').2 h
  rw [spacing, significantBits, Nat.sub_eq_zero_of_le hlog]

theorem spacing_mul_le (h : 2 ^ 53 ≤ n) : spacing n * 2 ^ 52 ≤ n := by
  have hne : n ≠ 0 := (Nat.lt_of_lt_of_le (by decide) h).ne'
  have hlog : 53 ≤ n.log2 := (Nat.le_log2 hne).2 h
  calc spacing n * 2 ^ 52
    _ = 2 ^ (n.log2 + 1 - 53 + 52) := (Nat.pow_add ..).symm
    _ = 2 ^ n.log2 := by congr 1; omega
    _ ≤ n := Nat.log2_self_le hne

theorem nearest_rounds (n : ℕ) :
    ∃ steps, nearest n = steps * spacing n ∧ 2 * n ≤ 2 * nearest n + spacing n ∧
      2 * nearest n ≤ 2 * n + spacing n ∧ (2 * (n % spacing n) = spacing n → steps % 2 = 0) := by
  have hsplit := Nat.div_add_mod' n (spacing n)
  have hrest := Nat.mod_lt n (spacing_pos n)
  have hnext := Nat.add_one_mul (n / spacing n) (spacing n)
  dsimp only [nearest]
  split
  · exact ⟨n / spacing n + 1, rfl, by omega, by omega, by omega⟩
  · exact ⟨n / spacing n, rfl, by omega, by omega, by omega⟩

theorem nearest_eq_self (h : n < 2 ^ 53) : nearest n = n := by
  obtain ⟨steps, -, hup, hdown, -⟩ := nearest_rounds n
  rw [spacing_eq_one h] at hup hdown
  omega

theorem nearest_mul_le (n : ℕ) : nearest n * 2 ^ 53 ≤ n * (2 ^ 53 + 1) := by
  rcases Nat.lt_or_ge n (2 ^ 53) with hsmall | hlarge
  · rw [nearest_eq_self hsmall]
    exact Nat.mul_le_mul_left n (Nat.le_add_right ..)
  · obtain ⟨steps, -, -, hnear, -⟩ := nearest_rounds n
    have hspacing := spacing_mul_le hlarge
    calc nearest n * 2 ^ 53
      _ = 2 * nearest n * 2 ^ 52 := by ring
      _ ≤ (2 * n + spacing n) * 2 ^ 52 := Nat.mul_le_mul_right _ hnear
      _ = n * 2 ^ 53 + spacing n * 2 ^ 52 := by ring
      _ ≤ n * 2 ^ 53 + n := Nat.add_le_add_left hspacing _
      _ = n * (2 ^ 53 + 1) := by ring

end TokenBridge.Rounding
