import TokenBridge.Proofs.Text.Trim
import TokenBridge.Url.Reader

namespace TokenBridge.Url

variable {front middle back s : List Char} {c : Char}

theorem cleaned_padded (hfront : ∀ c ∈ front, isControlOrSpace c) (hback : ∀ c ∈ back, isControlOrSpace c) :
    cleaned (front ++ middle ++ back) = cleaned middle := by
  rw [cleaned, ← List.rdropWhile, Text.rdropWhile_dropWhile_padded hfront hback]
  rfl

theorem toNat_of_isAlpha (h : c.isAlpha) :
    (65 ≤ c.toNat ∧ c.toNat ≤ 90) ∨ (97 ≤ c.toNat ∧ c.toNat ≤ 122) := by
  rcases Bool.or_eq_true_iff.1 h with hupper | hlower
  · obtain ⟨hlow, hhigh⟩ : 'A'.val ≤ c.val ∧ c.val ≤ 'Z'.val := of_decide_eq_true hupper
    exact .inl ⟨UInt32.le_iff_toNat_le.1 hlow, UInt32.le_iff_toNat_le.1 hhigh⟩
  · obtain ⟨hlow, hhigh⟩ := Bool.and_eq_true_iff.1 hlower
    exact .inr ⟨UInt32.le_iff_toNat_le.1 (of_decide_eq_true hlow),
      UInt32.le_iff_toNat_le.1 (of_decide_eq_true hhigh)⟩

theorem not_isAlpha_of_isBlank (h : Text.isBlank c) : c.isAlpha = false := by
  rw [← Bool.not_eq_true]
  intro halpha
  have hcode := toNat_of_isAlpha halpha
  simp [Text.isBlank, Text.inRanges, Text.blankRanges] at h
  omega

theorem isControlOrSpace_of_isTabOrNewline (h : isTabOrNewline c) : isControlOrSpace c := by
  simp only [isTabOrNewline, Bool.or_eq_true, decide_eq_true_eq] at h
  rcases h with (rfl | rfl) | rfl <;> rfl

theorem splitScheme_of_not_isAlpha (h : c.isAlpha = false) : splitScheme (c :: s) = none := by
  simp [splitScheme, h]

theorem readChars_of_blank_front
    (h : ∀ c, (s.dropWhile isControlOrSpace).head? = some c → Text.isBlank c) :
    readChars s = .error .noScheme := by
  have hscheme : splitScheme (cleaned s) = none := by
    have hhead := List.head?_dropWhile_not isControlOrSpace s
    rw [cleaned]
    cases ht : s.dropWhile isControlOrSpace with
    | nil => rfl
    | cons c rest =>
      rw [ht, List.head?_cons] at h hhead
      have hstays : ¬ isControlOrSpace c := by simpa using hhead
      have hunbroken : !isTabOrNewline c := by
        simpa using mt isControlOrSpace_of_isTabOrNewline hstays
      rw [← List.rdropWhile, Text.rdropWhile_cons hstays, List.filter_cons, if_pos hunbroken]
      exact splitScheme_of_not_isAlpha (not_isAlpha_of_isBlank (h c rfl))
  rw [readChars, hscheme]

end TokenBridge.Url
