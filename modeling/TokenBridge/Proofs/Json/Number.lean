import TokenBridge.Json.Token
import TokenBridge.Proofs.Numeral

namespace TokenBridge.Json

inductive Fraction : List Char → Prop
  | none : Fraction []
  | some {s : List Char} : s ≠ [] → (∀ c ∈ s, c.isDigit) → Fraction ('.' :: s)

inductive Exponent : List Char → Prop
  | none : Exponent []
  | some {mark : Char} {sign s : List Char} :
      mark = 'e' ∨ mark = 'E' → sign = [] ∨ sign = ['+'] ∨ sign = ['-'] → s ≠ [] → (∀ c ∈ s, c.isDigit) →
        Exponent (mark :: sign ++ s)

inductive Magnitude : List Char → Prop
  | mk {whole fraction exponent : List Char} :
      Numeral.Unpadded whole → Fraction fraction → Exponent exponent → Magnitude (whole ++ fraction ++ exponent)

def Ends (s : List Char) : Prop :=
  ∀ c ∈ s.head?, ¬ c.isDigit ∧ c ≠ '.' ∧ c ≠ 'e' ∧ c ≠ 'E'

variable {s rest digits whole fraction exponent literal : List Char} {c : Char}

theorem splitDigits_append (hs : ∀ c ∈ s, c.isDigit) (hrest : ∀ c ∈ rest.head?, ¬ c.isDigit) :
    splitDigits (s ++ rest) = (s, rest) := by
  have htake : rest.takeWhile Char.isDigit = [] := by
    cases rest with
    | nil => rfl
    | cons c rest => exact List.takeWhile_cons_of_neg (hrest c rfl)
  have hdrop : rest.dropWhile Char.isDigit = rest := by
    cases rest with
    | nil => rfl
    | cons c rest => exact List.dropWhile_cons_of_neg (hrest c rfl)
  rw [splitDigits, List.takeWhile_append_of_pos hs, List.dropWhile_append_of_pos hs, htake, hdrop, List.append_nil]

theorem of_splitDigits (h : splitDigits s = (digits, rest)) : s = digits ++ rest ∧ ∀ c ∈ digits, c.isDigit := by
  cases h
  exact ⟨List.takeWhile_append_dropWhile.symm, fun c hc => List.mem_takeWhile_imp hc⟩

theorem splitWhole_append (hwhole : Numeral.Unpadded whole) (hrest : ∀ c ∈ rest.head?, ¬ c.isDigit) :
    splitWhole (whole ++ rest) = some (whole, rest) := by
  rcases hwhole with rfl | ⟨hne, hdigits, hzero⟩
  · rfl
  · unfold splitWhole
    split
    · next h =>
      obtain ⟨c, s, rfl⟩ := List.exists_cons_of_ne_nil hne
      rw [List.cons_append, List.cons.injEq] at h
      simp [h.1] at hzero
    · rw [splitDigits_append hdigits hrest]
      split
      · next h => exact absurd (congrArg Prod.fst h) hne
      · rfl

theorem of_splitWhole (h : splitWhole s = some (whole, rest)) : Numeral.Unpadded whole ∧ s = whole ++ rest := by
  unfold splitWhole at h
  split at h
  · cases h
    exact ⟨.inl rfl, rfl⟩
  · next hzero =>
    split at h
    · cases h
    · next hne =>
      obtain ⟨rfl, hdigits⟩ := of_splitDigits (Option.some.inj h)
      cases whole with
      | nil => exact absurd (Option.some.inj h) (hne rest)
      | cons c whole =>
        refine ⟨.inr ⟨by simp, hdigits, ?_⟩, rfl⟩
        rintro hc
        cases hc
        exact hzero _ rfl

theorem splitFraction_append (hfraction : Fraction fraction) (hdigit : ∀ c ∈ rest.head?, ¬ c.isDigit)
    (hpoint : rest.head? ≠ some '.') : splitFraction (fraction ++ rest) = some (fraction, rest) := by
  cases hfraction with
  | none =>
    rw [List.nil_append]
    unfold splitFraction
    split
    · simp at hpoint
    · rfl
  | some hne hdigits =>
    rw [List.cons_append, splitFraction, splitDigits_append hdigits hdigit]
    split
    · next h => exact absurd (congrArg Prod.fst h) hne
    · next h =>
      cases h
      rfl

theorem of_splitFraction (h : splitFraction s = some (fraction, rest)) : Fraction fraction ∧ s = fraction ++ rest := by
  unfold splitFraction at h
  split at h
  · split at h
    · cases h
    · next hne hsplit =>
      cases h
      obtain ⟨rfl, hdigits⟩ := of_splitDigits hsplit
      exact ⟨.some hne hdigits, rfl⟩
  · cases h
    exact ⟨.none, rfl⟩

theorem splitSign_append {sign : List Char} (hsign : sign = [] ∨ sign = ['+'] ∨ sign = ['-']) (hs : s ≠ [])
    (hdigits : ∀ c ∈ s, c.isDigit) : splitSign (sign ++ (s ++ rest)) = (sign, s ++ rest) := by
  rcases hsign with rfl | rfl | rfl
  · obtain ⟨c, s, rfl⟩ := List.exists_cons_of_ne_nil hs
    have hc := hdigits c List.mem_cons_self
    rw [List.nil_append, List.cons_append]
    unfold splitSign
    split
    · next h =>
      cases h
      cases hc
    · next h =>
      cases h
      cases hc
    · rfl
  · rfl
  · rfl

theorem of_splitSign {sign : List Char} (h : splitSign s = (sign, rest)) :
    (sign = [] ∨ sign = ['+'] ∨ sign = ['-']) ∧ s = sign ++ rest := by
  unfold splitSign at h
  split at h <;> cases h <;> simp

theorem splitExponent_append (hexponent : Exponent exponent) (hrest : Ends rest) :
    splitExponent (exponent ++ rest) = some (exponent, rest) := by
  cases hexponent with
  | none =>
    cases rest with
    | nil => rfl
    | cons c rest =>
      obtain ⟨-, -, hlower, hupper⟩ := hrest c rfl
      rw [List.nil_append, splitExponent, if_neg (by simp [hlower, hupper])]
  | @some mark sign s hmark hsign hne hdigits =>
    rw [List.append_assoc, List.cons_append, splitExponent, if_pos hmark, splitSign_append hsign hne hdigits]
    dsimp only
    rw [splitDigits_append hdigits fun c hc => (hrest c hc).1]
    split
    · next h => exact absurd (congrArg Prod.fst h) hne
    · next h =>
      cases h
      rfl

theorem of_splitExponent (h : splitExponent s = some (exponent, rest)) : Exponent exponent ∧ s = exponent ++ rest := by
  unfold splitExponent at h
  split at h
  · cases h
    exact ⟨.none, rfl⟩
  · next c s =>
    split at h
    · next hmark =>
      dsimp only at h
      split at h
      · cases h
      · next hne hsplit =>
        cases h
        obtain ⟨hsign, hs⟩ := of_splitSign (Prod.mk.eta (p := splitSign s)).symm
        obtain ⟨hrest, hdigits⟩ := of_splitDigits hsplit
        refine ⟨.some hmark hsign hne hdigits, ?_⟩
        rw [hrest] at hs
        simp only [← hs, List.append_assoc, List.cons_append]
    · cases h
      exact ⟨.none, rfl⟩

theorem Exponent.head?_append (hexponent : Exponent exponent) (hrest : Ends rest) :
    ∀ c ∈ (exponent ++ rest).head?, ¬ c.isDigit ∧ c ≠ '.' := by
  cases hexponent with
  | none => exact fun c hc => ⟨(hrest c hc).1, (hrest c hc).2.1⟩
  | some hmark _ _ _ =>
    rintro c hc
    cases hc
    rcases hmark with rfl | rfl <;> decide

theorem Fraction.head?_append (hfraction : Fraction fraction) (hrest : ∀ c ∈ rest.head?, ¬ c.isDigit) :
    ∀ c ∈ (fraction ++ rest).head?, ¬ c.isDigit := by
  cases hfraction with
  | none => exact hrest
  | some _ _ =>
    rintro c hc
    cases hc
    decide

theorem Magnitude.readNumber (h : Magnitude literal) (hrest : Ends rest) :
    readNumber (literal ++ rest) = some (literal, rest) := by
  cases h with
  | @mk whole fraction exponent hwhole hfraction hexponent =>
    have hbehind := hexponent.head?_append hrest
    have hpoint : (exponent ++ rest).head? ≠ some '.' := fun hhead => (hbehind '.' hhead).2 rfl
    rw [List.append_assoc, List.append_assoc, Json.readNumber,
      splitWhole_append hwhole (hfraction.head?_append fun c hc => (hbehind c hc).1)]
    simp only [bind, Option.bind_some, splitFraction_append hfraction (fun c hc => (hbehind c hc).1) hpoint,
      splitExponent_append hexponent hrest]
    rw [List.append_assoc]
    rfl

theorem of_readNumber (h : readNumber s = some (literal, rest)) : Magnitude literal ∧ s = literal ++ rest := by
  simp only [readNumber, bind, Option.bind_eq_some_iff] at h
  obtain ⟨⟨whole, s₁⟩, hwhole, ⟨fraction, s₂⟩, hfraction, ⟨exponent, s₃⟩, hexponent, h⟩ := h
  cases h
  obtain ⟨hw, rfl⟩ := of_splitWhole hwhole
  obtain ⟨hf, rfl⟩ := of_splitFraction hfraction
  obtain ⟨he, rfl⟩ := of_splitExponent hexponent
  exact ⟨.mk hw hf he, by simp only [List.append_assoc]⟩

theorem Magnitude.exists_digit (h : Magnitude literal) : ∃ c s, literal = c :: s ∧ c.isDigit := by
  cases h with
  | mk hwhole _ _ =>
    rcases hwhole with rfl | ⟨hne, hdigits, -⟩
    · exact ⟨'0', _, rfl, rfl⟩
    · obtain ⟨c, s, rfl⟩ := List.exists_cons_of_ne_nil hne
      exact ⟨c, _, rfl, hdigits c List.mem_cons_self⟩

end TokenBridge.Json
