import Mathlib.Data.List.DropRight
import Mathlib.Tactic.Ring
import Mathlib.Tactic.SplitIfs
import TokenBridge.Numeral

namespace TokenBridge.Numeral

variable {c : Char} {s : List Char} {n : ℕ}

theorem isDigit_iff : c.isDigit ↔ 48 ≤ c.toNat ∧ c.toNat ≤ 57 := by
  simp [Char.isDigit, UInt32.le_iff_toNat_le]

theorem digit?_eq_some_iff {d : ℕ} : digit? c = some d ↔ c.isDigit ∧ c.toNat - '0'.toNat = d := by
  rw [digit?, isDigit_iff]
  split_ifs with h <;> simp [h]

theorem foldlM_digit?_eq_some_iff {m : ℕ} :
    s.foldlM (fun n c => (digit? c).map (10 * n + ·)) m = some n ↔
      (∀ c ∈ s, c.isDigit) ∧ Nat.ofDigitChars 10 s m = n := by
  induction s generalizing m with
  | nil => simp
  | cons c s ih =>
    rw [List.foldlM_cons, Nat.ofDigitChars_cons, List.forall_mem_cons]
    cases hc : digit? c with
    | none =>
      have hnot : ¬ c.isDigit := fun h => by simp [digit?_eq_some_iff.2 ⟨h, rfl⟩] at hc
      simp [hnot]
    | some d =>
      obtain ⟨hdigit, rfl⟩ := digit?_eq_some_iff.1 hc
      simp [hdigit, ih]

theorem value?_eq_some_iff : value? s = some n ↔ (∀ c ∈ s, c.isDigit) ∧ Nat.ofDigitChars 10 s 0 = n :=
  foldlM_digit?_eq_some_iff

theorem isDigit_of_mem_digits (h : c ∈ digits n) : c.isDigit :=
  Nat.isDigit_of_mem_toDigits (by norm_num) (by norm_num) h

theorem isDigit_of_mem_zeros {k : ℕ} (h : c ∈ List.replicate k '0') : c.isDigit := by
  rw [List.eq_of_mem_replicate h]
  rfl

theorem digits_ne_nil : digits n ≠ [] :=
  Nat.toDigits_ne_nil

theorem ofDigitChars_digits (n m : ℕ) :
    Nat.ofDigitChars 10 (digits n) m = 10 ^ (digits n).length * m + n := by
  rw [Nat.ofDigitChars_eq_ofDigitChars_zero, digits, Nat.ofDigitChars_ten_toDigits]

theorem ofDigitChars_zeros_append (k : ℕ) (s : List Char) :
    Nat.ofDigitChars 10 (List.replicate k '0' ++ s) 0 = Nat.ofDigitChars 10 s 0 := by
  rw [Nat.ofDigitChars_append, Nat.ofDigitChars_replicate_zero, Nat.mul_zero]

theorem ofDigitChars_append_zeros (s : List Char) (k : ℕ) :
    Nat.ofDigitChars 10 (s ++ List.replicate k '0') 0 = 10 ^ k * Nat.ofDigitChars 10 s 0 := by
  rw [Nat.ofDigitChars_append, Nat.ofDigitChars_replicate_zero]

theorem head?_digits (h : n ≠ 0) : (digits n).head? ≠ some '0' := by
  induction n using Nat.strong_induction_on with
  | h n ih =>
    rw [digits, Nat.toDigits_eq_if (by norm_num)]
    split
    · next hlt => simpa using h
    · next hle =>
      rw [List.head?_append_of_ne_nil _ Nat.toDigits_ne_nil]
      exact ih (n / 10) (by omega) (by omega)

/-- Digits without a zero in front, save for zero itself. -/
def Unpadded (s : List Char) : Prop :=
  s = ['0'] ∨ s ≠ [] ∧ (∀ c ∈ s, c.isDigit) ∧ s.head? ≠ some '0'

theorem unpadded_digits (n : ℕ) : Unpadded (digits n) := by
  rcases Nat.eq_zero_or_pos n with rfl | hn
  · exact .inl rfl
  · exact .inr ⟨digits_ne_nil, fun c => isDigit_of_mem_digits, head?_digits hn.ne'⟩

/-- A way of writing a number: at least one digit, behind a plus or without one. -/
inductive Writes : List Char → ℕ → Prop
  | bare {s : List Char} : s ≠ [] → (∀ c ∈ s, c.isDigit) → Writes s (Nat.ofDigitChars 10 s 0)
  | plus {s : List Char} : s ≠ [] → (∀ c ∈ s, c.isDigit) → Writes ('+' :: s) (Nat.ofDigitChars 10 s 0)

theorem writes_iff_of_head_ne_plus (hs : s.head? ≠ some '+') :
    Writes s n ↔ s ≠ [] ∧ (∀ c ∈ s, c.isDigit) ∧ Nat.ofDigitChars 10 s 0 = n := by
  constructor
  · rintro (⟨hne, hdigits⟩ | ⟨-, -⟩)
    · exact ⟨hne, hdigits, rfl⟩
    · exact absurd rfl hs
  · rintro ⟨hne, hdigits, rfl⟩
    exact .bare hne hdigits

theorem writes_plus_iff :
    Writes ('+' :: s) n ↔ s ≠ [] ∧ (∀ c ∈ s, c.isDigit) ∧ Nat.ofDigitChars 10 s 0 = n := by
  constructor
  · rintro (⟨-, hdigits⟩ | ⟨hne, hdigits⟩)
    · cases hdigits '+' List.mem_cons_self
    · exact ⟨hne, hdigits, rfl⟩
  · rintro ⟨hne, hdigits, rfl⟩
    exact .plus hne hdigits

theorem le_ofDigitChars (s : List Char) (m : ℕ) : m ≤ Nat.ofDigitChars 10 s m := by
  rw [Nat.ofDigitChars_eq_ofDigitChars_zero]
  exact le_add_right (Nat.le_mul_of_pos_left m (Nat.pow_pos (by norm_num)))

theorem readDigits_eq_ok_iff {limit m : ℕ} (hm : m ≤ limit) :
    readDigits limit m s = .ok n ↔ (∀ c ∈ s, c.isDigit) ∧ Nat.ofDigitChars 10 s m = n ∧ n ≤ limit := by
  induction s generalizing m with
  | nil =>
    simp only [readDigits, Nat.ofDigitChars_nil, Except.ok.injEq]
    constructor
    · rintro rfl
      exact ⟨by simp, rfl, hm⟩
    · exact fun h => h.2.1
  | cons c s ih =>
    rw [readDigits, Nat.ofDigitChars_cons, List.forall_mem_cons]
    cases hc : digit? c with
    | none =>
      have hnot : ¬ c.isDigit := fun h => by simp [digit?_eq_some_iff.2 ⟨h, rfl⟩] at hc
      simp [hnot]
    | some d =>
      obtain ⟨hdigit, rfl⟩ := digit?_eq_some_iff.1 hc
      dsimp only
      split
      · next hlarge =>
        constructor
        · rintro ⟨⟩
        · rintro ⟨-, rfl, hle⟩
          have := le_ofDigitChars s (10 * m + (c.toNat - '0'.toNat))
          omega
      · next hsmall => rw [ih (by omega), and_iff_right hdigit]

theorem read_eq_ok_iff {limit : ℕ} : read limit s = .ok n ↔ Writes s n ∧ n ≤ limit := by
  unfold read
  split
  · simp [writes_iff_of_head_ne_plus (s := []) (by simp)]
  · simp [writes_plus_iff]
  · next rest hne =>
    rw [readDigits_eq_ok_iff limit.zero_le, writes_plus_iff, and_iff_right hne, and_assoc]
  · next hempty _ hplus =>
    have hhead : s.head? ≠ some '+' := by
      intro hhead
      obtain ⟨rest, rfl⟩ := List.head?_eq_some_iff.1 hhead
      exact hplus rest rfl
    rw [readDigits_eq_ok_iff limit.zero_le, writes_iff_of_head_ne_plus hhead, and_iff_right hempty, and_assoc]

theorem read64_eq_ok_iff {text : String} : read64 text = .ok n ↔ Writes text.toList n ∧ n < 2 ^ 64 := by
  rw [read64, read_eq_ok_iff]
  exact and_congr_right fun _ => Nat.le_sub_one_iff_lt (Nat.two_pow_pos 64)

end TokenBridge.Numeral

