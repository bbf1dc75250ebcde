import TokenBridge.Json.Bounded
import TokenBridge.Proofs.Rounding

namespace TokenBridge.Json

/-- A member that can be held in memory beside others, in an object that stands inside a document. -/
structure Member.Kept (m : Member) : Prop where
  name : m.1.isSome
  texts : m.2.hasTexts
  numbers : m.2.numbersFit
  depth : m.2.depth < maxInnerDepth

variable {members : List Member} {n : Nat}

theorem membersHaveTexts_iff : membersHaveTexts members ↔ ∀ m ∈ members, m.1.isSome ∧ m.2.hasTexts := by
  induction members with
  | nil => simp [membersHaveTexts]
  | cons m members ih =>
    obtain ⟨k, v⟩ := m
    rw [membersHaveTexts, Bool.and_eq_true, Bool.and_eq_true, ih, List.forall_mem_cons]

theorem memberNumbersFit_iff : memberNumbersFit members ↔ ∀ m ∈ members, m.2.numbersFit := by
  induction members with
  | nil => simp [memberNumbersFit]
  | cons m members ih =>
    obtain ⟨k, v⟩ := m
    rw [memberNumbersFit, Bool.and_eq_true, ih, List.forall_mem_cons]

theorem depthMembers_le_iff : depthMembers members ≤ n ↔ ∀ m ∈ members, m.2.depth ≤ n := by
  induction members with
  | nil => simp [depthMembers]
  | cons m members ih =>
    obtain ⟨k, v⟩ := m
    rw [depthMembers, Nat.max_le, ih, List.forall_mem_cons]

theorem powerOfTen_le_iff {m n : ℕ} : Numeral.powerOfTen m ≤ Numeral.powerOfTen n ↔ m ≤ n :=
  Nat.pow_le_pow_iff_right (Nat.le_add_left 2 8)

theorem numberFits_of_le {literal : List Char} {n : ℕ} {exponent : ℤ} (hscaled : scaled literal = (n, exponent))
    (h : n * Numeral.powerOfTen exponent.toNat ≤ Numeral.powerOfTen maxExponent.toNat) : numberFits literal := by
  rcases n.eq_zero_or_pos with rfl | hpos
  · simp [numberFits, hscaled]
  · have hpower : Numeral.powerOfTen exponent.toNat ≤ Numeral.powerOfTen maxExponent.toNat :=
      (Nat.le_mul_of_pos_left _ hpos).trans h
    have hexponent : exponent ≤ maxExponent :=
      Int.toNat_le.1 (powerOfTen_le_iff.1 hpower)
    have hproduct : Rounding.nearest n * Rounding.nearest (Numeral.powerOfTen exponent.toNat) <
        Rounding.infinity := by
      -- rounding twice adds less than lies between the largest power of ten and infinity
      refine Nat.lt_of_mul_lt_mul_right (a := 2 ^ 53 * 2 ^ 53) ?_
      calc Rounding.nearest n * Rounding.nearest (Numeral.powerOfTen exponent.toNat) * (2 ^ 53 * 2 ^ 53)
        _ = Rounding.nearest n * 2 ^ 53 * (Rounding.nearest (Numeral.powerOfTen exponent.toNat) * 2 ^ 53) :=
          Nat.mul_mul_mul_comm ..
        _ ≤ n * (2 ^ 53 + 1) * (Numeral.powerOfTen exponent.toNat * (2 ^ 53 + 1)) :=
          Nat.mul_le_mul (Rounding.nearest_mul_le n) (Rounding.nearest_mul_le _)
        _ = n * Numeral.powerOfTen exponent.toNat * ((2 ^ 53 + 1) * (2 ^ 53 + 1)) := Nat.mul_mul_mul_comm ..
        _ ≤ Numeral.powerOfTen maxExponent.toNat * ((2 ^ 53 + 1) * (2 ^ 53 + 1)) := Nat.mul_le_mul_right _ h
        _ < Rounding.infinity * (2 ^ 53 * 2 ^ 53) := by decide +kernel
    simp [numberFits, hscaled, hexponent, hproduct]

theorem isBounded_object_iff : (object members).isBounded ↔ ∀ m ∈ members, m.Kept := by
  rw [isBounded, Bool.and_eq_true, Bool.and_eq_true, decide_eq_true_iff, hasTexts, numbersFit, depth,
    membersHaveTexts_iff, memberNumbersFit_iff, Nat.add_one_le_iff, Nat.lt_iff_le_pred (by decide), depthMembers_le_iff]
  constructor
  · rintro ⟨⟨htexts, hnumbers⟩, hdepth⟩ m hm
    exact ⟨(htexts m hm).1, (htexts m hm).2, hnumbers m hm, Nat.lt_of_le_pred (by decide) (hdepth m hm)⟩
  · intro h
    exact ⟨⟨fun m hm => ⟨(h m hm).name, (h m hm).texts⟩, fun m hm => (h m hm).numbers⟩,
      fun m hm => Nat.le_pred_of_lt (h m hm).depth⟩

end TokenBridge.Json
