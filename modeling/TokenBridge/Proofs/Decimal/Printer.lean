import TokenBridge.Decimal.Printer
import TokenBridge.Proofs.Decimal.Literal

namespace TokenBridge.Decimal

def Writes (s : List Char) (v : ℚ) : Prop :=
  ∃ d, Literal s d ∧ d.value = v

inductive Sign : List Char → ℤ → Prop
  | none : Sign [] 1
  | minus : Sign ['-'] (-1)

variable {sign s t : List Char} {factor scale : ℤ} {n k places : ℕ}

theorem Sign.signed (h : Sign sign factor) (hne : s ≠ []) (hs : ∀ c ∈ s, c.isDigit) :
    Signed (sign ++ s) (factor * Nat.ofDigitChars 10 s 0) := by
  cases h with
  | none => simpa using Signed.bare (unsigned_of_digits hne hs)
  | minus => simpa using Signed.minus (unsigned_of_digits hne hs)

theorem Sign.writes_whole (h : Sign sign factor) (hne : s ≠ []) (hs : ∀ c ∈ s, c.isDigit) :
    Writes (sign ++ s) (factor * Nat.ofDigitChars 10 s 0) := by
  refine ⟨_, .plain (.whole (h.signed hne hs)) (by norm_num), ?_⟩
  simp [value]

theorem Sign.pointed (h : Sign sign factor) (hne : s ≠ []) (hs : ∀ c ∈ s, c.isDigit)
    (hn : Nat.ofDigitChars 10 s 0 = n) {w f : List Char} (hsplit : w ++ f = s) :
    Pointed (sign ++ (w ++ '.' :: f)) (factor * n) f.length := by
  subst hn hsplit
  have hsigned := h.signed hne hs
  rw [← List.append_assoc] at hsigned ⊢
  have hpoint := Pointed.point hsigned
  rwa [filter_of_digits fun c hc => hs c (List.mem_append_right w hc)] at hpoint

theorem Sign.writes_point (h : Sign sign factor) (hne : s ≠ []) (hs : ∀ c ∈ s, c.isDigit)
    (hn : Nat.ofDigitChars 10 s 0 = n) {w f : List Char} (hsplit : w ++ f = s) (hplaces : f.length = places)
    (hfits : places < 2 ^ 63) :
    Writes (sign ++ (w ++ '.' :: f)) (factor * n * 10 ^ (-places : ℤ)) := by
  refine ⟨_, .plain (h.pointed hne hs hn hsplit) (hplaces ▸ hfits), ?_⟩
  simp [value, hplaces]

theorem Sign.writes_plain (h : Sign sign factor) (hne : s ≠ []) (hs : ∀ c ∈ s, c.isDigit)
    (hn : Nat.ofDigitChars 10 s 0 = n) (hscale : scale < 2 ^ 63) :
    Writes (sign ++ plain s scale) (factor * n * 10 ^ (-scale)) := by
  have hzeros : ∀ k, ∀ c ∈ List.replicate k '0', c.isDigit := fun k c => Numeral.isDigit_of_mem_zeros
  rcases le_or_gt scale 0 with hle | hlt
  · obtain ⟨k, rfl⟩ := Int.exists_eq_neg_ofNat hle
    have hwrites := h.writes_whole (by simp [hne]) (List.forall_mem_append.2 ⟨hs, hzeros k⟩)
    rw [Numeral.ofDigitChars_append_zeros, hn, mul_comm (10 ^ k)] at hwrites
    simpa [plain, mul_assoc] using hwrites
  · obtain ⟨places, rfl⟩ := Int.eq_ofNat_of_zero_le hlt.le
    have hpositive : places ≠ 0 := by omega
    have hfits : places < 2 ^ 63 := by exact_mod_cast hscale
    by_cases hinside : places < s.length
    · have hlength : (s.drop (s.length - places)).length = places := by
        rw [List.length_drop]
        omega
      simpa [plain, hpositive, hinside] using
        h.writes_point hne hs hn (List.take_append_drop _ s) hlength hfits
    · have hlength : (List.replicate (places - s.length) '0' ++ s).length = places := by
        rw [List.length_append, List.length_replicate]
        omega
      have hnumber : Nat.ofDigitChars 10 (List.replicate (places - s.length + 1) '0' ++ s) 0 = n := by
        rw [Numeral.ofDigitChars_zeros_append, hn]
      simpa [plain, hpositive, hinside] using
        h.writes_point (w := ['0']) (by simp) (List.forall_mem_append.2 ⟨hzeros _, hs⟩) hnumber rfl hlength hfits

theorem signed_digits (k : ℕ) : Signed ('+' :: Numeral.digits k) k ∧ Signed ('-' :: Numeral.digits k) (-k) := by
  have hdigits := unsigned_of_digits (Numeral.digits_ne_nil (n := k)) fun c => Numeral.isDigit_of_mem_digits
  rw [Numeral.ofDigitChars_digits, Nat.mul_zero, Nat.zero_add] at hdigits
  exact ⟨.plus hdigits, .minus hdigits⟩

theorem gap_not_mem_digits : '_' ∉ Numeral.digits k :=
  Nat.underscore_not_in_toDigits

theorem Sign.writes_shifted (h : Sign sign factor) (hne : s ≠ []) (hs : ∀ c ∈ s, c.isDigit)
    (hn : Nat.ofDigitChars 10 s 0 = n) (hzeros : k ≤ 2 ^ 63) :
    Writes (sign ++ (s ++ 'e' :: '+' :: Numeral.digits k)) (factor * n * 10 ^ k) := by
  have hbase := Pointed.whole (h.signed hne hs)
  rw [hn] at hbase
  have hliteral := Literal.exponent hbase (.inl rfl) (signed_digits k).1 (by simp [gap_not_mem_digits])
    (by omega) (by omega) (by omega) (by omega)
  rw [List.append_assoc] at hliteral
  refine ⟨_, hliteral, ?_⟩
  simp [value]

theorem toList_toString_of_neg {e : ℤ} (h : e < 0) : (toString e).toList = '-' :: Numeral.digits e.natAbs := by
  obtain ⟨k, rfl⟩ := Int.eq_negSucc_of_lt_zero h
  simp [Numeral.digits, Int.repr, toString]

theorem Sign.pointed_scientific (h : Sign sign factor) (hne : s ≠ []) (hs : ∀ c ∈ s, c.isDigit)
    (hn : Nat.ofDigitChars 10 s 0 = n) (scale : ℤ) :
    ∃ t, scientific s scale = t ++ 'E' :: (toString ((s.length : ℤ) - 1 - scale)).toList ∧
      Pointed (sign ++ t) (factor * n) (s.length - 1) := by
  match s with
  | [] => exact absurd rfl hne
  | [d] => exact ⟨[d], rfl, hn ▸ .whole (h.signed hne hs)⟩
  | d :: d' :: rest => exact ⟨d :: '.' :: d' :: rest, rfl, h.pointed (w := [d]) hne hs hn rfl⟩

theorem Sign.writes_scientific (h : Sign sign factor) (hne : s ≠ []) (hs : ∀ c ∈ s, c.isDigit)
    (hn : Nat.ofDigitChars 10 s 0 = n) (hsmall : s.length ≤ scale) (hscale : scale < 2 ^ 63) :
    Writes (sign ++ scientific s scale) (factor * n * 10 ^ (-scale)) := by
  obtain ⟨t, heq, hpointed⟩ := h.pointed_scientific hne hs hn scale
  have hlength : 0 < s.length := List.length_pos_of_ne_nil hne
  obtain ⟨k, hk⟩ := Int.eq_ofNat_of_zero_le (a := scale - s.length + 1) (by omega)
  have hexponent : (s.length : ℤ) - 1 - scale = -k := by omega
  have hplaces : ((s.length - 1 : ℕ) : ℤ) - -k = scale := by omega
  rw [toList_toString_of_neg (by omega), hexponent, Int.natAbs_neg, Int.natAbs_natCast] at heq
  have hliteral := Literal.exponent hpointed (.inr rfl) (signed_digits k).2 (by simp [gap_not_mem_digits])
    (by omega) (by omega) (by omega) (by omega)
  rw [List.append_assoc, ← heq] at hliteral
  refine ⟨_, hliteral, ?_⟩
  simp [value, hplaces]

theorem Sign.writes_textOf (h : Sign sign factor) (hne : s ≠ []) (hs : ∀ c ∈ s, c.isDigit)
    (hn : Nat.ofDigitChars 10 s 0 = n) (hleast : -2 ^ 63 ≤ scale) (hmost : scale < 2 ^ 63) :
    Writes (sign ++ textOf s scale) (factor * n * 10 ^ (-scale)) := by
  rw [textOf]
  split
  · next hsmall =>
    exact h.writes_scientific hne hs hn (by unfold maxLeadingZeros at hsmall; omega) hmost
  · split
    · next hlarge =>
      unfold maxTrailingZeros at hlarge
      obtain ⟨k, rfl⟩ := Int.exists_eq_neg_ofNat (a := scale) (by omega)
      simpa using h.writes_shifted (k := k) hne hs hn (by omega)
    · exact h.writes_plain hne hs hn hmost

theorem value_eq_of_digits {d : Decimal} (h : factor * d.digits.natAbs = d.digits) :
    factor * d.digits.natAbs * 10 ^ (-if d.digits = 0 then 0 else d.scale) = d.value := by
  have hcast : ((factor * d.digits.natAbs : ℤ) : ℚ) = d.digits := by rw [h]
  rw [Int.cast_mul, Int.cast_natCast] at hcast
  rw [hcast, value]
  split
  · next hzero => simp [hzero]
  · rfl

theorem writes_text {d : Decimal} (hleast : -2 ^ 63 ≤ d.scale) (hmost : d.scale < 2 ^ 63) :
    Writes d.text.toList d.value := by
  have hnumber : Nat.ofDigitChars 10 (Numeral.digits d.digits.natAbs) 0 = d.digits.natAbs := by
    simp [Numeral.ofDigitChars_digits]
  have hwrites : ∀ {sign factor}, Sign sign factor → factor * d.digits.natAbs = d.digits →
      Writes (sign ++ textOf (Numeral.digits d.digits.natAbs) (if d.digits = 0 then 0 else d.scale)) d.value := by
    intro sign factor hsign hfactor
    rw [← value_eq_of_digits hfactor]
    exact hsign.writes_textOf Numeral.digits_ne_nil (fun c => Numeral.isDigit_of_mem_digits) hnumber
      (by split <;> omega) (by split <;> omega)
  rw [text, String.toList_ofList]
  split
  · exact hwrites .minus (by omega)
  · exact hwrites .none (by omega)

end TokenBridge.Decimal
