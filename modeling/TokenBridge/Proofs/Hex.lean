import TokenBridge.Hex
import TokenBridge.Proofs.Text.Utf8
import TokenBridge.Text.Blank

namespace TokenBridge.Hex

def isDigit (c : Char) : Bool :=
  ('0' ≤ c && c ≤ '9') || ('a' ≤ c && c ≤ 'f') || ('A' ≤ c && c ≤ 'F')

/-- A way of writing bytes: digits of either case, behind one mark or none. -/
inductive Spelling (bytes : Bytes) : List Char → Prop
  | plain {digits : List Char} :
      (∀ c ∈ digits, isDigit c) → digits.map Char.toLower = encode bytes → Spelling bytes digits
  | marked {mark : Char} {digits : List Char} :
      mark = 'x' ∨ mark = 'X' → (∀ c ∈ digits, isDigit c) → digits.map Char.toLower = encode bytes →
        Spelling bytes ('0' :: mark :: digits)

variable {c : Char} {b : UInt8} {m n position : Nat} {s : List Char} {text bytes : Bytes}

theorem toNat_le_of_isDigit (h : isDigit c) : c.toNat ≤ 0x66 := by
  simp only [isDigit, Bool.or_eq_true, Bool.and_eq_true, decide_eq_true_eq, Char.le_def,
    UInt32.le_iff_toNat_le] at h
  rcases h with (⟨-, h⟩ | ⟨-, h⟩) | ⟨-, h⟩ <;> exact h.trans (by decide)

theorem of_isDigit {P : Char → Prop} (hall : ∀ i : Fin 0x67, isDigit (Char.ofNat i) → P (Char.ofNat i))
    (h : isDigit c) : P c := by
  have hc := hall ⟨c.toNat, by have := toNat_le_of_isDigit h; omega⟩
  rw [Char.ofNat_toNat] at hc
  exact hc h

theorem isBlank_of_isDigit : isDigit c → Text.isBlank c = false :=
  of_isDigit (P := fun c => Text.isBlank c = false) (by decide +kernel)

theorem digit_inj (hm : m < 16) (hn : n < 16) : digit m = digit n ↔ m = n := by
  have hall : ∀ i j : Fin 16, digit i = digit j ↔ i.val = j.val := by decide
  exact hall ⟨m, hm⟩ ⟨n, hn⟩

theorem isDigit_digit (hn : n < 16) : isDigit (digit n) ∧ isDigit (digit n).toUpper := by
  have hall : ∀ i : Fin 16, isDigit (digit i) ∧ isDigit (digit i).toUpper := by decide
  exact hall ⟨n, hn⟩

theorem toLower_digit (hn : n < 16) :
    (digit n).toLower = digit n ∧ (digit n).toUpper.toLower = digit n := by
  have hall : ∀ i : Fin 16, (digit i).toLower = digit i ∧ (digit i).toUpper.toLower = digit i := by decide
  exact hall ⟨n, hn⟩

theorem value?_of_isDigit (h : isDigit c) :
    ∃ n < 16, value? (UInt8.ofNat c.toNat) = some n ∧ c.toLower = digit n := by
  obtain ⟨n, hn⟩ : ∃ n : Fin 16, value? (UInt8.ofNat c.toNat) = some n.val ∧ c.toLower = digit n :=
    of_isDigit (P := fun c => ∃ n : Fin 16, value? (UInt8.ofNat c.toNat) = some n.val ∧ c.toLower = digit n)
      (by decide +kernel) h
  exact ⟨n, n.isLt, hn⟩

theorem of_value? (h : value? b = some n) :
    n < 16 ∧ ∃ c, isDigit c ∧ b = UInt8.ofNat c.toNat ∧ c.toLower = digit n := by
  have hall : ∀ i : Fin 256, (value? (UInt8.ofNat i)).all fun n =>
      n < 16 && isDigit (Char.ofNat i) && UInt8.ofNat i = UInt8.ofNat (Char.ofNat i).toNat &&
        (Char.ofNat i).toLower = digit n := by decide +kernel
  have hb := hall ⟨b.toNat, b.toNat_lt⟩
  rw [UInt8.ofNat_toNat, h] at hb
  simp only [Option.all_some, Bool.and_eq_true, decide_eq_true_eq] at hb
  obtain ⟨⟨⟨hn, hdigit⟩, hcode⟩, hlower⟩ := hb
  exact ⟨hn, _, hdigit, hcode, hlower⟩

theorem unmarkAnyCase_of_unmarked (h : ¬ ∃ rest, s = '0' :: 'X' :: rest) : unmarkAnyCase s = unmark s := by
  unfold unmarkAnyCase
  split
  · next rest => exact absurd ⟨rest, rfl⟩ h
  · rfl

theorem eq_mark_or_unmarkAnyCase_eq (s : List Char) :
    (∃ mark, (mark = 'x' ∨ mark = 'X') ∧ s = '0' :: mark :: unmarkAnyCase s) ∨ unmarkAnyCase s = s := by
  unfold unmarkAnyCase unmark
  split
  · exact .inl ⟨'X', .inr rfl, rfl⟩
  · split
    · exact .inl ⟨'x', .inl rfl, rfl⟩
    · exact .inr rfl

theorem unmarkAnyCase_of_isDigit (h : ∀ c ∈ s, isDigit c) : unmarkAnyCase s = s := by
  obtain ⟨mark, hmark, hs⟩ | hs := eq_mark_or_unmarkAnyCase_eq s
  · have hdigit := h mark (by rw [hs]; simp)
    rcases hmark with rfl | rfl <;> cases hdigit
  · exact hs

theorem spelling_iff :
    Spelling bytes s ↔
      (∀ c ∈ unmarkAnyCase s, isDigit c) ∧ (unmarkAnyCase s).map Char.toLower = encode bytes := by
  constructor
  · rintro (⟨hdigits, hlower⟩ | ⟨rfl | rfl, hdigits, hlower⟩)
    · rw [unmarkAnyCase_of_isDigit hdigits]
      exact ⟨hdigits, hlower⟩
    · exact ⟨hdigits, hlower⟩
    · exact ⟨hdigits, hlower⟩
  · rintro ⟨hdigits, hlower⟩
    obtain ⟨mark, hmark, hs⟩ | hs := eq_mark_or_unmarkAnyCase_eq s
    · rw [hs]
      exact .marked hmark hdigits hlower
    · rw [hs] at hdigits hlower
      exact .plain hdigits hlower

theorem encode_cons (b : UInt8) (bytes : Bytes) :
    encode (b :: bytes) = digit (b.toNat / 16) :: digit (b.toNat % 16) :: encode bytes :=
  rfl

theorem length_encode (bytes : Bytes) : (encode bytes).length = 2 * bytes.length := by
  induction bytes with
  | nil => rfl
  | cons b bytes ih =>
    rw [encode_cons, List.length_cons, List.length_cons, ih, List.length_cons]
    omega

theorem exists_digit_of_mem (h : c ∈ encode bytes) : ∃ n < 16, c = digit n := by
  induction bytes with
  | nil => cases h
  | cons b bytes ih =>
    have := b.toNat_lt
    rw [encode_cons, List.mem_cons, List.mem_cons] at h
    rcases h with rfl | rfl | h
    · exact ⟨_, by omega, rfl⟩
    · exact ⟨_, by omega, rfl⟩
    · exact ih h

theorem ofNat_digits (hm : m < 16) (hn : n < 16) :
    (UInt8.ofNat (16 * m + n)).toNat / 16 = m ∧ (UInt8.ofNat (16 * m + n)).toNat % 16 = n := by
  rw [UInt8.toNat_ofNat']
  omega

theorem of_decodeFrom (h : decodeFrom position text = .ok bytes) :
    ∃ s : List Char, text = (s.map fun c => UInt8.ofNat c.toNat) ∧ (∀ c ∈ s, isDigit c) ∧
      s.map Char.toLower = encode bytes := by
  fun_induction decodeFrom position text generalizing bytes with
  | case1 => cases h; exact ⟨[], rfl, by simp, rfl⟩
  | case2 => cases h
  | case3 => cases h
  | case4 => cases h
  | case5 position a b rest high low hlow hhigh bytes' hrest ih =>
    cases h
    obtain ⟨hm, c, hc, rfl, hclower⟩ := of_value? hhigh
    obtain ⟨hn, d, hd, rfl, hdlower⟩ := of_value? hlow
    obtain ⟨s, rfl, hs, hslower⟩ := ih hrest
    obtain ⟨hfirst, hsecond⟩ := ofNat_digits hm hn
    refine ⟨c :: d :: s, rfl, by simpa [hc, hd] using hs, ?_⟩
    rw [encode_cons, hfirst, hsecond, List.map_cons, List.map_cons, hclower, hdlower, hslower]
  | case6 => cases h

theorem decodeFrom_of_digits (hs : ∀ c ∈ s, isDigit c) (hlower : s.map Char.toLower = encode bytes) :
    decodeFrom position (s.map fun c => UInt8.ofNat c.toNat) = .ok bytes := by
  induction bytes generalizing s position with
  | nil =>
    obtain rfl := List.map_eq_nil_iff.1 hlower
    rfl
  | cons b bytes ih =>
    obtain ⟨c, s, rfl, hc, hlower⟩ := List.map_eq_cons_iff.1 hlower
    obtain ⟨d, s, rfl, hd, hlower⟩ := List.map_eq_cons_iff.1 hlower
    simp only [List.forall_mem_cons] at hs
    have := b.toNat_lt
    obtain ⟨m, hm, hhigh, hcm⟩ := value?_of_isDigit hs.1
    obtain ⟨n, hn, hlow, hdn⟩ := value?_of_isDigit hs.2.1
    obtain rfl : m = b.toNat / 16 := (digit_inj hm (by omega)).1 (hcm.symm.trans hc)
    obtain rfl : n = b.toNat % 16 := (digit_inj hn (by omega)).1 (hdn.symm.trans hd)
    simp only [List.map_cons, decodeFrom, hhigh, hlow, ih hs.2.2 hlower, Nat.div_add_mod,
      UInt8.ofNat_toNat]

theorem decodeFrom_utf8_eq_ok_iff :
    decodeFrom position (Text.utf8 s) = .ok bytes ↔
      (∀ c ∈ s, isDigit c) ∧ s.map Char.toLower = encode bytes := by
  have hascii : ∀ {s : List Char}, (∀ c ∈ s, isDigit c) →
      Text.utf8 s = s.map fun c => UInt8.ofNat c.toNat := fun hs =>
    Text.utf8_of_ascii fun c hc => (toNat_le_of_isDigit (hs c hc)).trans (by decide)
  constructor
  · intro h
    obtain ⟨digits, htext, hdigits, hlower⟩ := of_decodeFrom h
    rw [← hascii hdigits, Text.utf8_injective.eq_iff] at htext
    rw [htext]
    exact ⟨hdigits, hlower⟩
  · rintro ⟨hs, hlower⟩
    rw [hascii hs]
    exact decodeFrom_of_digits hs hlower

theorem decode_eq_ok_iff : decode text = .ok bytes ↔ decodeFrom 0 text = .ok bytes := by
  unfold decode
  split
  · next hodd =>
    refine iff_of_false (by rintro ⟨⟩) fun h => ?_
    have := length_of_decodeFrom h
    omega
  · rfl

theorem read_eq_ok_iff {s : String} : read s = .ok bytes ↔ Spelling bytes s.toList := by
  rw [read, decode_eq_ok_iff, decodeFrom_utf8_eq_ok_iff, spelling_iff]

theorem Spelling.length_eq (h : Spelling bytes s) : (unmarkAnyCase s).length = 2 * bytes.length := by
  rw [← List.length_map Char.toLower, (spelling_iff.1 h).2, length_encode]

theorem exists_encode_eq (hs : ∀ c ∈ s, isDigit c) (hlength : s.length = 2 * n) :
    ∃ bytes : Bytes, bytes.length = n ∧ s.map Char.toLower = encode bytes := by
  induction n generalizing s with
  | zero =>
    obtain rfl := List.length_eq_zero_iff.1 hlength
    exact ⟨[], rfl, rfl⟩
  | succ n ih =>
    match s, hlength with
    | c :: d :: s, hlength =>
      simp only [List.forall_mem_cons] at hs
      simp only [List.length_cons] at hlength
      obtain ⟨m, hm, -, hc⟩ := value?_of_isDigit hs.1
      obtain ⟨k, hk, -, hd⟩ := value?_of_isDigit hs.2.1
      obtain ⟨bytes, hbytes, hlower⟩ := ih hs.2.2 (by omega)
      obtain ⟨hfirst, hsecond⟩ := ofNat_digits hm hk
      refine ⟨UInt8.ofNat (16 * m + k) :: bytes, by simp [hbytes], ?_⟩
      rw [encode_cons, hfirst, hsecond, List.map_cons, List.map_cons, hc, hd, hlower]

end TokenBridge.Hex
