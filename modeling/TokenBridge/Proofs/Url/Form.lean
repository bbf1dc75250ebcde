import Mathlib.Data.List.Basic
import TokenBridge.Proofs.Hex
import TokenBridge.Proofs.Url.Percent

namespace TokenBridge.Url

/-- Text that is made of some characters, and of escapes: a `%` and two hexadecimal digits each. -/
inductive Escaped (plain : Char → Prop) : List Char → Prop
  | nil : Escaped plain []
  | plain {c : Char} {s : List Char} : plain c → Escaped plain s → Escaped plain (c :: s)
  | escape {high low : Char} {s : List Char} : Hex.isDigit high → Hex.isDigit low → Escaped plain s →
      Escaped plain ('%' :: high :: low :: s)

variable {plain : Char → Prop} {isPlain : UInt8 → Bool} {b : UInt8} {n : Nat} {s t : List Char}

theorem Escaped.append (hs : Escaped plain s) (ht : Escaped plain t) : Escaped plain (s ++ t) := by
  induction hs with
  | nil => exact ht
  | plain hc _ ih => exact .plain hc ih
  | escape hhigh hlow _ ih => exact .escape hhigh hlow ih

theorem Escaped.forall_mem {p : Char → Prop} (hs : Escaped plain s) (hplain : ∀ c, plain c → p c)
    (hpercent : p '%') (hdigit : ∀ c, Hex.isDigit c → p c) : ∀ c ∈ s, p c := by
  induction hs with
  | nil => simp
  | plain hc _ ih => exact List.forall_mem_cons.2 ⟨hplain _ hc, ih⟩
  | escape hhigh hlow _ ih =>
    simp only [List.forall_mem_cons]
    exact ⟨hpercent, hdigit _ hhigh, hdigit _ hlow, ih⟩

theorem isDigit_upperDigit (hn : n < 16) : Hex.isDigit (upperDigit n) :=
  (Hex.isDigit_digit hn).2

theorem escaped_percent (b : UInt8) : Escaped plain (percent b) := by
  have := b.toNat_lt
  exact .escape (isDigit_upperDigit (by omega)) (isDigit_upperDigit (by omega)) .nil

theorem escaped_encodeByte (h : isPlain b → plain (Char.ofNat b.toNat)) : Escaped plain (encodeByte isPlain b) := by
  rw [encodeByte]
  split
  · next hb => exact .plain (h hb) .nil
  · exact escaped_percent b

theorem escaped_percentEncode (h : ∀ b ∈ Text.utf8 s, isPlain b → plain (Char.ofNat b.toNat)) :
    Escaped plain (percentEncode isPlain s) := by
  rw [percentEncode]
  generalize Text.utf8 s = bytes at h
  induction bytes with
  | nil => exact .nil
  | cons b bytes ih =>
    obtain ⟨hb, hbytes⟩ := List.forall_mem_cons.1 h
    exact (escaped_encodeByte hb).append (ih hbytes)

theorem formEncode_eq_percentEncode (h : 32 ∉ Text.utf8 s) : formEncode s = percentEncode isFormPlain s := by
  refine List.flatMap_congr fun b hb => ?_
  have hne : b ≠ 32 := fun hspace => h (hspace ▸ hb)
  rw [formByte, if_neg hne]

theorem ascii_of_isFormPlain (h : isFormPlain b) : b.toNat ≤ 0x7F ∧ b ≠ 37 := by
  have hall : ∀ i : Fin 256, isFormPlain (UInt8.ofNat i) →
      (UInt8.ofNat i).toNat ≤ 0x7F ∧ UInt8.ofNat i ≠ 37 := by decide +kernel
  have hb := hall ⟨b.toNat, b.toNat_lt⟩
  rw [UInt8.ofNat_toNat] at hb
  exact hb h

theorem percentDecode_formEncode (h : 32 ∉ Text.utf8 s) :
    percentDecode (Text.utf8 (formEncode s)) = Text.utf8 s := by
  rw [formEncode_eq_percentEncode h]
  exact percentDecode_percentEncode (fun _ => ascii_of_isFormPlain) s

def isFormKept (b : UInt8) : Bool :=
  isFormPlain b || b = 32

theorem ascii_of_isFormKept (h : isFormKept b) : b.toNat ≤ 0x7F ∧ b ≠ 37 := by
  rw [isFormKept, Bool.or_eq_true, decide_eq_true_eq] at h
  rcases h with h | rfl
  · exact ascii_of_isFormPlain h
  · decide

def spaced (b : UInt8) : UInt8 :=
  if b = 43 then 32 else b

theorem spaced_formByte (b : UInt8) :
    (Text.utf8 (formByte b)).map spaced = Text.utf8 (encodeByte isFormKept b) := by
  have hall : ∀ i : Fin 256, (Text.utf8 (formByte (UInt8.ofNat i))).map spaced =
      Text.utf8 (encodeByte isFormKept (UInt8.ofNat i)) := by decide +kernel
  have hb := hall ⟨b.toNat, b.toNat_lt⟩
  rw [UInt8.ofNat_toNat] at hb
  exact hb

-- no byte is encoded with a `+`, and so the spaces may come back before the other bytes are decoded
theorem spaced_formEncode (s : List Char) :
    (Text.utf8 (formEncode s)).map spaced = Text.utf8 (percentEncode isFormKept s) := by
  rw [formEncode, percentEncode]
  induction Text.utf8 s with
  | nil => rfl
  | cons b bytes ih =>
    rw [List.flatMap_cons, List.flatMap_cons, Text.utf8_append, Text.utf8_append, List.map_append,
      spaced_formByte, ih]

theorem formDecode_formEncode (s : List Char) : formDecode (Text.utf8 (formEncode s)) = Text.utf8 s := by
  have hspaced : formDecode (Text.utf8 (formEncode s)) =
      percentDecode ((Text.utf8 (formEncode s)).map spaced) := rfl
  rw [hspaced, spaced_formEncode]
  exact percentDecode_percentEncode (fun _ => ascii_of_isFormKept) s

theorem formEncode_injective : Function.Injective formEncode := by
  intro s t h
  apply Text.utf8_injective
  rw [← formDecode_formEncode s, h, formDecode_formEncode t]

def linkMarks : List Char :=
  ['&', '=', '?', '#']

theorem escaped_formByte (b : UInt8) : Escaped (· ∉ linkMarks) (formByte b) := by
  rw [formByte]
  split
  · exact .plain (by decide) .nil
  · refine escaped_encodeByte fun hplain => ?_
    have hall : ∀ i : Fin 256, isFormPlain (UInt8.ofNat i) →
        Char.ofNat (UInt8.ofNat i).toNat ∉ linkMarks := by decide +kernel
    have hb := hall ⟨b.toNat, b.toNat_lt⟩
    rw [UInt8.ofNat_toNat] at hb
    exact hb hplain

theorem escaped_formEncode (s : List Char) : Escaped (· ∉ linkMarks) (formEncode s) := by
  rw [formEncode]
  induction Text.utf8 s with
  | nil => exact .nil
  | cons b bytes ih => exact (escaped_formByte b).append ih

theorem not_mem_linkMarks_of_mem_formEncode : ∀ c ∈ formEncode s, c ∉ linkMarks := by
  refine (escaped_formEncode s).forall_mem (fun c hc => hc) (by decide) fun c hc => ?_
  exact Hex.of_isDigit (P := fun c => c ∉ linkMarks) (by decide +kernel) hc

end TokenBridge.Url
