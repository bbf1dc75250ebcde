import TokenBridge.Proofs.Amount.Magnitude
import TokenBridge.Proofs.Decimal.Literal
import TokenBridge.Proofs.Text.Trim

namespace TokenBridge.Amount

open Decimal (Literal)

theorem isBlank_of_isDigit {c : Char} (h : c.isDigit) : Text.isBlank c = false := by
  have hrange := Numeral.isDigit_iff.1 h
  simp [Text.isBlank, Text.blankRanges, Text.inRanges]
  omega

theorem isBlank_of_mem_literal {s : List Char} {amount : Decimal} {c : Char} (h : Literal s amount) (hc : c ∈ s) :
    Text.isBlank c = false := by
  have hchar : c = 'e' ∨ c = 'E' ∨ c = '.' ∨ c.isDigit ∨ c = '_' ∨ c = '+' ∨ c = '-' := by
    cases h with
    | plain h => exact .inr (.inr (h.of_mem hc))
    | exponent h hmark ht =>
      simp only [List.mem_append, List.mem_cons] at hc
      rcases hc with hc | rfl | hc
      · exact .inr (.inr (h.of_mem hc))
      · exact hmark.imp_right .inl
      · exact .inr (.inr (.inr (ht.of_mem hc)))
  rcases hchar with rfl | rfl | rfl | h | rfl | rfl | rfl
  case inr.inr.inr.inl => exact isBlank_of_isDigit h
  all_goals decide

variable {input other : String} {amount : Decimal}

theorem trim_of_literal (h : Literal input.toList amount) : Text.trim input = input :=
  Text.trim_of_unblank fun _ => isBlank_of_mem_literal h

theorem parse_of_not_literal (h : ¬ ∃ amount, Literal (Text.trim input).toList amount) :
    parse input = .error (.malformed (Text.trim input)) := by
  cases hread : Decimal.ofString? (Text.trim input) with
  | none => simp [parse, hread]
  | some amount => exact absurd ⟨amount, Decimal.read_eq_some_iff.1 hread⟩ h

open Classical in
theorem parse_of_literal (h : Literal (Text.trim input).toList amount) :
    parse input =
      if ¬ ∃ n : ℤ, baseUnits amount = n then .error .excessPrecision
      else if 10 ^ 78 ≤ |amount.value| then .error (.malformed "amount out of range")
      else .ok amount := by
  have hread : Decimal.ofString? (Text.trim input) = some amount := Decimal.read_eq_some_iff.2 h
  simp only [parse, hread, checkMagnitude_eq_ite]
  split_ifs <;> rfl

theorem parse_decides (input : String) :
    ((¬ ∃ amount, Literal (Text.trim input).toList amount) →
        parse input = .error (.malformed (Text.trim input))) ∧
      (∀ amount, Literal (Text.trim input).toList amount →
        (∀ read, Literal (Text.trim input).toList read → read = amount) ∧
          ((∃ read, parse input = .ok read) ↔
            amount.value = 0 ∨ (∃ n : ℤ, 10 ^ 7 * amount.value = n) ∧ |amount.value| < 10 ^ 78) ∧
          (∀ read, parse input = .ok read → read.value = amount.value) ∧
          (parse input = .error .excessPrecision ↔
            amount.value ≠ 0 ∧ ¬ ∃ n : ℤ, 10 ^ 7 * amount.value = n) ∧
          (parse input = .error (.malformed "amount out of range") ↔
            amount.value ≠ 0 ∧ (∃ n : ℤ, 10 ^ 7 * amount.value = n) ∧ 10 ^ 78 ≤ |amount.value|)) ∧
      ∀ other amount amount', Literal (Text.trim input).toList amount →
        Literal (Text.trim other).toList amount' → amount.value = amount'.value →
          (parse input).map Decimal.value = (parse other).map Decimal.value := by
  have hzero : ∀ a : Decimal, a.value = 0 → ∃ n : ℤ, baseUnits a = n := fun a ha => ⟨0, by simp [baseUnits, ha]⟩
  refine ⟨parse_of_not_literal, fun a h => ⟨fun read hread => hread.unique h, ?_⟩, fun other a a' h h' hvalue => ?_⟩
  · have hunits : baseUnits a = 10 ^ 7 * a.value := rfl
    rw [parse_of_literal h, ← hunits]
    split_ifs with hwhole hlarge
    · have hne : a.value ≠ 0 := fun ha => by norm_num [ha] at hlarge
      simp [hwhole, hlarge, hne]
    · by_cases ha : a.value = 0
      · simp [ha]
      · simp [ha, hwhole, hlarge, not_le.1 hlarge]
    · have hne : a.value ≠ 0 := fun ha => hwhole (hzero a ha)
      simp [hwhole, hne]
  · rw [parse_of_literal h, parse_of_literal h', baseUnits, baseUnits, hvalue]
    split_ifs <;> simp [Except.map, hvalue]

theorem parse_decides_spellings :
    (∃ amount, parse " +2_5.00E-1\n" = .ok amount ∧ amount.value = 5 / 2) ∧
      (parse " +2_5.00E-1\n").map Decimal.value = (parse "2.5").map Decimal.value ∧
      parse "2,5" = .error (.malformed "2,5") := by
  have hlong : Literal (Text.trim " +2_5.00E-1\n").toList ⟨2500, 3⟩ :=
    Decimal.read_eq_some_iff.1 (by decide +kernel)
  have hshort : Literal (Text.trim "2.5").toList ⟨25, 1⟩ := Decimal.read_eq_some_iff.1 (by decide +kernel)
  have hvalue : (⟨2500, 3⟩ : Decimal).value = 5 / 2 := by norm_num [Decimal.value]
  obtain ⟨-, hliteral, hspellings⟩ := parse_decides " +2_5.00E-1\n"
  obtain ⟨-, haccepted, hkept, -⟩ := hliteral _ hlong
  obtain ⟨amount, hparse⟩ := haccepted.2 (.inr ⟨⟨25000000, by norm_num [hvalue]⟩, by norm_num [hvalue]⟩)
  refine ⟨⟨amount, hparse, (hkept amount hparse).trans hvalue⟩, hspellings "2.5" _ _ hlong hshort ?_, ?_⟩
  · norm_num [Decimal.value]
  · have htrim : Text.trim "2,5" = "2,5" := by decide +kernel
    have hnot : Decimal.read (Text.trim "2,5").toList = none := by decide +kernel
    have hrefused := (parse_decides "2,5").1 fun ⟨_, h⟩ => by
      cases hnot.symm.trans (Decimal.read_eq_some_iff.2 h)
    rwa [htrim] at hrefused

end TokenBridge.Amount
