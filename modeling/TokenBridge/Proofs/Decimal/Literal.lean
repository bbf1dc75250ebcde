import Mathlib.Data.List.TakeWhile
import TokenBridge.Decimal.Reader
import TokenBridge.Proofs.Decimal.Value
import TokenBridge.Proofs.Numeral

namespace TokenBridge.Decimal

/-- Digits, with underscores anywhere but in front, and the number that the digits write. -/
inductive Unsigned : List Char → ℕ → Prop
  | intro {c : Char} {s : List Char} : c.isDigit → (∀ x ∈ s, x.isDigit ∨ x = '_') →
      Unsigned (c :: s) (Nat.ofDigitChars 10 ((c :: s).filter (· ≠ '_')) 0)

inductive Signed : List Char → ℤ → Prop
  | bare {s : List Char} {n : ℕ} : Unsigned s n → Signed s n
  | plus {s : List Char} {n : ℕ} : Unsigned s n → Signed ('+' :: s) n
  | minus {s : List Char} {n : ℕ} : Unsigned s n → Signed ('-' :: s) (-n)

/-- A number with or without a point in it, and how many places the point leaves behind it. -/
inductive Pointed : List Char → ℤ → ℕ → Prop
  | whole {s : List Char} {n : ℤ} : Signed s n → Pointed s n 0
  | point {s t : List Char} {n : ℤ} : Signed (s ++ t) n →
      Pointed (s ++ '.' :: t) n (t.filter (· ≠ '_')).length

/-- A literal and the number that it writes. The exponent has 128 bits, and the places less the exponent 64. -/
inductive Literal : List Char → Decimal → Prop
  | plain {s : List Char} {n : ℤ} {places : ℕ} : Pointed s n places → places < 2 ^ 63 →
      Literal s ⟨n, places⟩
  | exponent {s t : List Char} {mark : Char} {n e : ℤ} {places : ℕ} : Pointed s n places →
      mark = 'e' ∨ mark = 'E' → Signed t e → '_' ∉ t → -2 ^ 127 ≤ e → e < 2 ^ 127 →
      -2 ^ 63 ≤ places - e → places - e < 2 ^ 63 → Literal (s ++ mark :: t) ⟨n, places - e⟩

variable {s t base : List Char} {c : Char} {n e : ℤ} {m places : ℕ} {d : Decimal}

theorem Unsigned.of_mem (h : Unsigned s m) (hc : c ∈ s) : c.isDigit ∨ c = '_' := by
  cases h with
  | intro hfirst hrest =>
    rcases List.mem_cons.1 hc with rfl | hc
    · exact .inl hfirst
    · exact hrest c hc

theorem Signed.of_mem (h : Signed s n) (hc : c ∈ s) : c.isDigit ∨ c = '_' ∨ c = '+' ∨ c = '-' := by
  cases h with
  | bare h =>
    have := h.of_mem hc
    tauto
  | plus h | minus h =>
    rcases List.mem_cons.1 hc with rfl | hc
    · simp
    · have := h.of_mem hc
      tauto

theorem Signed.point_not_mem (h : Signed s n) : '.' ∉ s := by
  intro hc
  have := h.of_mem hc
  simp [Char.isDigit] at this

theorem Pointed.of_mem (h : Pointed s n places) (hc : c ∈ s) :
    c = '.' ∨ c.isDigit ∨ c = '_' ∨ c = '+' ∨ c = '-' := by
  cases h with
  | whole h => exact .inr (h.of_mem hc)
  | point h =>
    by_cases hpoint : c = '.'
    · exact .inl hpoint
    · simp only [List.mem_append, List.mem_cons, hpoint, false_or] at hc
      exact .inr (h.of_mem (List.mem_append.2 hc))

theorem Pointed.not_isExponentMark (h : Pointed s n places) : ∀ c ∈ s, !isExponentMark c := by
  intro c hc
  have hchar := h.of_mem hc
  rw [Bool.not_eq_true', isExponentMark, Bool.or_eq_false_iff, decide_eq_false_iff_not,
    decide_eq_false_iff_not]
  constructor <;> rintro rfl <;> simp [Char.isDigit] at hchar

theorem filter_of_digits (h : ∀ c ∈ s, c.isDigit) : s.filter (· ≠ '_') = s := by
  refine List.filter_eq_self.2 fun c hc => decide_eq_true ?_
  rintro rfl
  simpa [Char.isDigit] using h _ hc

theorem unsigned_of_digits (hne : s ≠ []) (h : ∀ c ∈ s, c.isDigit) : Unsigned s (Nat.ofDigitChars 10 s 0) := by
  cases s with
  | nil => exact absurd rfl hne
  | cons c s =>
    have hall := List.forall_mem_cons.1 h
    have hwrites := Unsigned.intro hall.1 fun x hx => .inl (hall.2 x hx)
    rwa [filter_of_digits h] at hwrites

theorem readDigits_eq_some_iff : readDigits s = some m ↔ Unsigned s m := by
  cases s with
  | nil =>
    constructor
    · rintro ⟨⟩
    · rintro ⟨⟩
  | cons c s =>
    by_cases hc : c = '_'
    · subst hc
      constructor
      · rintro ⟨⟩
      · rintro ⟨hfirst, -⟩
        simp [Char.isDigit] at hfirst
    · have hread : readDigits (c :: s) = Numeral.value? ((c :: s).filter (· ≠ '_')) := by
        rw [readDigits]
        · simp
        · simpa using hc
      rw [hread, Numeral.value?_eq_some_iff]
      constructor
      · rintro ⟨hdigits, rfl⟩
        simp only [List.mem_filter, List.mem_cons, decide_eq_true_eq, and_imp, forall_eq_or_imp] at hdigits
        refine .intro (hdigits.1 hc) fun x hx => ?_
        by_cases hgap : x = '_'
        · exact .inr hgap
        · exact .inl (hdigits.2 x hx hgap)
      · intro h
        refine ⟨fun x hx => ?_, ?_⟩
        · simp only [List.mem_filter, decide_eq_true_eq] at hx
          exact (h.of_mem hx.1).resolve_right hx.2
        · cases h
          rfl

theorem readSigned_eq_some_iff : readSigned s = some n ↔ Signed s n := by
  constructor
  · intro h
    unfold readSigned at h
    split at h
    · simp only [bind, pure, Option.map_eq_some_iff, Option.bind_eq_some_iff, Option.some.injEq] at h
      obtain ⟨_, ⟨m, hm, rfl⟩, rfl⟩ := h
      exact .minus (readDigits_eq_some_iff.1 hm)
    · obtain ⟨m, hm, rfl⟩ := Option.map_eq_some_iff.1 h
      exact .plus (readDigits_eq_some_iff.1 hm)
    · obtain ⟨m, hm, rfl⟩ := Option.map_eq_some_iff.1 h
      exact .bare (readDigits_eq_some_iff.1 hm)
  · intro h
    cases h with
    | bare h =>
      have hread := readDigits_eq_some_iff.2 h
      cases h with
      | intro hfirst _ =>
        rw [readSigned]
        · simp [hread]
        · rintro _ ⟨⟩
          simp [Char.isDigit] at hfirst
        · rintro _ ⟨⟩
          simp [Char.isDigit] at hfirst
    | plus h => simp [readSigned, readDigits_eq_some_iff.2 h]
    | minus h => simp [readSigned, readDigits_eq_some_iff.2 h]

theorem readNatural_eq_some_iff : readNatural s = some m ↔ readDigits s = some m ∧ '_' ∉ s := by
  rw [readDigits_eq_some_iff]
  cases s with
  | nil =>
    constructor
    · rintro ⟨⟩
    · rintro ⟨⟨⟩, -⟩
  | cons c s =>
    rw [readNatural, Numeral.value?_eq_some_iff]
    · constructor
      · rintro ⟨hdigits, rfl⟩
        exact ⟨unsigned_of_digits (by simp) hdigits, fun hx => by simpa [Char.isDigit] using hdigits _ hx⟩
      · rintro ⟨h, hgap⟩
        have hdigits : ∀ x ∈ c :: s, x.isDigit := fun x hx => (h.of_mem hx).resolve_right fun h => hgap (h ▸ hx)
        cases h
        rw [filter_of_digits hdigits]
        exact ⟨hdigits, rfl⟩
    · simp

theorem readExponent_eq_some_iff : readExponent s = some e ↔ Signed s e ∧ '_' ∉ s := by
  rw [← readSigned_eq_some_iff]
  unfold readExponent readSigned
  split <;> simp [bind, pure, Option.map_eq_some_iff, Option.bind_eq_some_iff, readNatural_eq_some_iff] <;> tauto

theorem ne_point_of_not_mem (h : '.' ∉ s) : ∀ c ∈ s, decide (c ≠ '.') = true :=
  fun _ hc => decide_eq_true fun hpoint => h (hpoint ▸ hc)

theorem splitPoint_of_not_mem (h : '.' ∉ s) : splitPoint s = (s, 0) := by
  rw [splitPoint, List.takeWhile_eq_self_iff.2 (ne_point_of_not_mem h),
    List.dropWhile_eq_nil_iff.2 (ne_point_of_not_mem h)]
  simp

theorem splitPoint_append (h : '.' ∉ s) :
    splitPoint (s ++ '.' :: t) = (s ++ t, (t.filter (· ≠ '_')).length) := by
  rw [splitPoint, List.takeWhile_append_of_pos (ne_point_of_not_mem h),
    List.dropWhile_append_of_pos (ne_point_of_not_mem h)]
  simp

theorem pointed_iff : Pointed s n places ↔ Signed (splitPoint s).1 n ∧ (splitPoint s).2 = places := by
  constructor
  · intro h
    cases h with
    | whole h => simpa [splitPoint_of_not_mem h.point_not_mem] using h
    | point h =>
      rw [splitPoint_append fun hc => h.point_not_mem (List.mem_append_left _ hc)]
      exact ⟨h, rfl⟩
  · rintro ⟨h, rfl⟩
    by_cases hpoint : '.' ∈ s
    · obtain ⟨w, f, rfl, hw⟩ := List.eq_append_cons_of_mem hpoint
      rw [splitPoint_append hw] at h ⊢
      exact .point h
    · rw [splitPoint_of_not_mem hpoint] at h ⊢
      exact .whole h

theorem isExponentMark_iff : isExponentMark c ↔ c = 'e' ∨ c = 'E' := by
  simp [isExponentMark]

theorem fitsSigned_iff {bits : ℕ} : fitsSigned bits e ↔ -2 ^ (bits - 1) ≤ e ∧ e < 2 ^ (bits - 1) := by
  simp [fitsSigned, signedBound]

theorem exponentFits_iff : exponentFits e ↔ -2 ^ 127 ≤ e ∧ e < 2 ^ 127 :=
  fitsSigned_iff

theorem scaleFits_iff : scaleFits e ↔ -2 ^ 63 ≤ e ∧ e < 2 ^ 63 :=
  fitsSigned_iff

theorem splitExponent_of_unmarked (h : ∀ c ∈ s, !isExponentMark c) : splitExponent s = some (s, 0) := by
  simp [splitExponent, List.takeWhile_eq_self_iff.2 h, List.dropWhile_eq_nil_iff.2 h]

theorem splitExponent_append (h : ∀ c ∈ s, !isExponentMark c) (hc : isExponentMark c) :
    splitExponent (s ++ c :: t) = (readExponent t).bind fun e => if exponentFits e then some (s, e) else none := by
  simp [splitExponent, List.takeWhile_append_of_pos h, List.dropWhile_append_of_pos h, hc]

theorem splitExponent_eq_some_iff :
    splitExponent s = some (base, e) ↔ (∀ c ∈ base, !isExponentMark c) ∧
      (s = base ∧ e = 0 ∨ ∃ mark t, s = base ++ mark :: t ∧ isExponentMark mark ∧
        readExponent t = some e ∧ exponentFits e) := by
  constructor
  · intro h
    rw [splitExponent] at h
    split at h
    · next hrest =>
      cases h
      have hall := List.dropWhile_eq_nil_iff.1 hrest
      rw [List.takeWhile_eq_self_iff.2 hall]
      exact ⟨hall, .inl ⟨rfl, rfl⟩⟩
    · next mark t hrest =>
      obtain ⟨e', he, hfits⟩ := Option.bind_eq_some_iff.1 h
      have hmark := List.head?_dropWhile_not (!isExponentMark ·) s
      have hsplit := List.takeWhile_append_dropWhile (p := (!isExponentMark ·)) (l := s)
      rw [hrest] at hmark hsplit
      split at hfits
      · next hfit =>
        cases hfits
        exact ⟨fun c hc => List.mem_takeWhile_imp (p := (!isExponentMark ·)) hc,
          .inr ⟨mark, t, hsplit.symm, by simpa using hmark, he, hfit⟩⟩
      · cases hfits
  · rintro ⟨hbase, ⟨rfl, rfl⟩ | ⟨mark, t, rfl, hmark, he, hfits⟩⟩
    · exact splitExponent_of_unmarked hbase
    · rw [splitExponent_append hbase hmark, he, Option.bind_some, if_pos hfits]

theorem read_eq_some_iff_split :
    read s = some d ↔ ∃ base e places, splitExponent s = some (base, e) ∧ Pointed base d.digits places ∧
      d.scale = places - e ∧ scaleFits d.scale := by
  constructor
  · intro h
    obtain ⟨⟨base, e⟩, hsplit, h⟩ := Option.bind_eq_some_iff.1 h
    obtain ⟨n, hn, h⟩ := Option.bind_eq_some_iff.1 h
    dsimp only at h
    split at h
    · next hfits =>
      cases h
      exact ⟨base, e, _, hsplit, pointed_iff.2 ⟨readSigned_eq_some_iff.1 hn, rfl⟩, rfl, hfits⟩
    · cases h
  · rintro ⟨base, e, places, hsplit, hbase, hscale, hfits⟩
    obtain ⟨hsigned, rfl⟩ := pointed_iff.1 hbase
    simp [read, hsplit, readSigned_eq_some_iff.2 hsigned, ← hscale, hfits]

theorem read_eq_some_iff : read s = some d ↔ Literal s d := by
  rw [read_eq_some_iff_split]
  constructor
  · rintro ⟨base, e, places, hsplit, hbase, hscale, hfits⟩
    obtain ⟨n, scale⟩ := d
    obtain rfl : scale = places - e := hscale
    have hrange : -2 ^ 63 ≤ places - e ∧ places - e < 2 ^ 63 := scaleFits_iff.1 hfits
    obtain ⟨-, ⟨rfl, rfl⟩ | ⟨mark, t, rfl, hmark, he, hexponent⟩⟩ := splitExponent_eq_some_iff.1 hsplit
    · rw [sub_zero] at hrange ⊢
      exact .plain hbase (by exact_mod_cast hrange.2)
    · obtain ⟨ht, hgap⟩ := readExponent_eq_some_iff.1 he
      obtain ⟨hlow, hhigh⟩ := exponentFits_iff.1 hexponent
      exact .exponent hbase (isExponentMark_iff.1 hmark) ht hgap hlow hhigh hrange.1 hrange.2
  · intro h
    cases h with
    | @plain _ _ places h hfits =>
      have hrange : -2 ^ 63 ≤ (places : ℤ) ∧ (places : ℤ) < 2 ^ 63 := ⟨by omega, by exact_mod_cast hfits⟩
      exact ⟨s, 0, places, splitExponent_of_unmarked h.not_isExponentMark, h, (sub_zero _).symm,
        scaleFits_iff.2 hrange⟩
    | @exponent base t mark n e places h hmark ht hgap hlow hhigh hleast hmost =>
      refine ⟨base, e, places, ?_, h, rfl, scaleFits_iff.2 ⟨hleast, hmost⟩⟩
      rw [splitExponent_append h.not_isExponentMark (isExponentMark_iff.2 hmark),
        readExponent_eq_some_iff.2 ⟨ht, hgap⟩, Option.bind_some, if_pos (exponentFits_iff.2 ⟨hlow, hhigh⟩)]

theorem Literal.unique {d' : Decimal} (h : Literal s d) (h' : Literal s d') : d = d' :=
  Option.some.inj ((read_eq_some_iff.2 h).symm.trans (read_eq_some_iff.2 h'))

end TokenBridge.Decimal
