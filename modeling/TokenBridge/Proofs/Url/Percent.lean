import TokenBridge.Proofs.Text.Utf8
import TokenBridge.Url.Percent

namespace TokenBridge.Url

variable {plain : UInt8 → Bool} {b : UInt8} {n : Nat}

theorem value?_upperDigit (hn : n < 16) :
    (upperDigit n).toNat ≤ 0x7F ∧ Hex.value? (UInt8.ofNat (upperDigit n).toNat) = some n := by
  have hall : ∀ i : Fin 16, (upperDigit i).toNat ≤ 0x7F ∧
      Hex.value? (UInt8.ofNat (upperDigit i).toNat) = some i.val := by decide
  exact hall ⟨n, hn⟩

theorem utf8_ofNat (hb : b.toNat ≤ 0x7F) : Text.utf8 [Char.ofNat b.toNat] = [b] := by
  have hall : ∀ i : Fin 0x80, Text.utf8 [Char.ofNat i] = [UInt8.ofNat i] := by decide +kernel
  rw [hall ⟨b.toNat, by omega⟩, UInt8.ofNat_toNat]

theorem utf8_percent (b : UInt8) : Text.utf8 (percent b) =
    [37, UInt8.ofNat (upperDigit (b.toNat / 16)).toNat, UInt8.ofNat (upperDigit (b.toNat % 16)).toNat] := by
  have := b.toNat_lt
  rw [percent, Text.utf8_of_ascii]
  · rfl
  · simp only [List.forall_mem_cons]
    exact ⟨by decide, (value?_upperDigit (by omega)).1, (value?_upperDigit (by omega)).1, by simp⟩

theorem percentDecode_cons (hb : b ≠ 37) (bytes : Bytes) :
    percentDecode (b :: bytes) = b :: percentDecode bytes := by
  match bytes with
  | [] => rfl
  | [_] => rfl
  | _ :: _ :: _ => rw [percentDecode, if_neg hb]

theorem percentDecode_percent (b : UInt8) (bytes : Bytes) :
    percentDecode (Text.utf8 (percent b) ++ bytes) = b :: percentDecode bytes := by
  have := b.toNat_lt
  have hhigh := (value?_upperDigit (n := b.toNat / 16) (by omega)).2
  have hlow := (value?_upperDigit (n := b.toNat % 16) (by omega)).2
  rw [utf8_percent, List.cons_append, List.cons_append, List.cons_append, List.nil_append, percentDecode,
    if_pos rfl, hhigh, hlow]
  simp only [Nat.div_add_mod, UInt8.ofNat_toNat]

theorem percentDecode_encodeByte (hplain : ∀ b, plain b → b.toNat ≤ 0x7F ∧ b ≠ 37) (b : UInt8)
    (bytes : Bytes) :
    percentDecode (Text.utf8 (encodeByte plain b) ++ bytes) = b :: percentDecode bytes := by
  rw [encodeByte]
  split
  · next hb =>
    obtain ⟨hascii, hne⟩ := hplain b hb
    rw [utf8_ofNat hascii, List.singleton_append, percentDecode_cons hne]
  · exact percentDecode_percent b bytes

theorem percentDecode_percentEncode (hplain : ∀ b, plain b → b.toNat ≤ 0x7F ∧ b ≠ 37) (s : List Char) :
    percentDecode (Text.utf8 (percentEncode plain s)) = Text.utf8 s := by
  rw [percentEncode]
  induction Text.utf8 s with
  | nil => rfl
  | cons b bytes ih =>
    rw [List.flatMap_cons, Text.utf8_append, percentDecode_encodeByte hplain, ih]

theorem percentEncode_injective (hplain : ∀ b, plain b → b.toNat ≤ 0x7F ∧ b ≠ 37) :
    Function.Injective (percentEncode plain) := by
  intro s t h
  apply Text.utf8_injective
  rw [← percentDecode_percentEncode hplain s, h, percentDecode_percentEncode hplain t]

end TokenBridge.Url
