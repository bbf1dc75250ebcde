import TokenBridge.Memo
import TokenBridge.Proofs.Base64.Canonical
import TokenBridge.Proofs.Base64.Reader
import TokenBridge.Proofs.Evm.Address

namespace TokenBridge

theorem Address.ofBytes?_eq_some_iff {bytes : Bytes} {a : Address} :
    Address.ofBytes? bytes = some a ↔ bytes = a.bytes := by
  constructor
  · intro h
    rw [ofBytes?] at h
    split at h
    · cases h
      rfl
    · cases h
  · rintro rfl
    exact ofBytes?_bytes a

theorem Address.ofBytes?_eq_none_iff {bytes : Bytes} :
    Address.ofBytes? bytes = none ↔ bytes.length ≠ 20 := by
  simp [ofBytes?]

namespace Memo

open Base64 (Canonical Spells alphabet canonical_iff canonical_encode decode_utf8_eq_ok_iff)

variable {s : String} {a : Address}

theorem readAddress_eq_ok_iff : readAddress s = .ok a ↔ Address.Names (Hex.unmark s.toList) a := by
  rw [Address.names_iff]
  constructor
  · intro h
    simp only [readAddress] at h
    split at h
    · cases h
    · split at h
      · cases h
      · cases h
      · next bytes hbytes =>
        split at h
        · next a' ha =>
          cases h
          rw [hbytes, Address.ofBytes?_eq_some_iff.1 ha]
        · cases h
  · intro h
    have hlength := Hex.length_of_decodeFrom h
    rw [a.length_bytes] at hlength
    simp [readAddress, h, hlength, Address.size]

theorem encode_of_readAddress (h : readAddress s = .ok a) : encode s = .ok (ofAddress a) := by
  rw [encode, h]
  rfl

theorem read_of_readAddress (h : readAddress s = .ok a) : Address.read s = .ok a := by
  have hnames := readAddress_eq_ok_iff.1 h
  rw [Address.read_eq_ok_iff, Address.unmarkAnyCase_of_names hnames]
  exact hnames

theorem exists_read_iff :
    (∃ a, Address.read s = .ok a) ↔
      (∃ a, readAddress s = .ok a) ∨
      ∃ digits, s.toList = '0' :: 'X' :: digits ∧ digits.length = 40 ∧ ∀ c ∈ digits, Hex.isDigit c := by
  constructor
  · rintro ⟨a, h⟩
    rw [Address.read_eq_ok_iff] at h
    by_cases hmark : ∃ digits, s.toList = '0' :: 'X' :: digits
    · obtain ⟨digits, hs⟩ := hmark
      rw [hs] at h
      exact .inr ⟨digits, hs, Address.exists_names_iff.1 ⟨a, h⟩⟩
    · rw [Hex.unmarkAnyCase_of_unmarked hmark] at h
      exact .inl ⟨a, readAddress_eq_ok_iff.2 h⟩
  · rintro (⟨a, h⟩ | ⟨digits, hs, hdigits⟩)
    · exact ⟨a, read_of_readAddress h⟩
    · obtain ⟨a, h⟩ := Address.exists_names_iff.2 hdigits
      refine ⟨a, Address.read_eq_ok_iff.2 ?_⟩
      rw [hs]
      exact h

theorem canonical_iff_decode {bytes : Bytes} :
    Canonical s.toList bytes ↔ Base64.decode (Text.utf8 s.toList) = .ok bytes := by
  rw [canonical_iff, decode_utf8_eq_ok_iff]

theorem canonical_ofAddress (a : Address) : Canonical (ofAddress a).text.toList a.bytes := by
  rw [ofAddress, String.toList_ofList]
  exact canonical_encode a.bytes

theorem canonical_iff_eq_ofAddress : Canonical s.toList a.bytes ↔ s = (ofAddress a).text := by
  rw [canonical_iff, ofAddress, ← String.toList_inj, String.toList_ofList]

theorem decode_eq_ok_iff : decode s = .ok a ↔ Canonical s.toList a.bytes := by
  rw [canonical_iff_decode]
  cases h : Base64.decode (Text.utf8 s.toList) with
  | error fault => simp [decode, h]
  | ok bytes =>
    simp only [decode, h, Except.ok.injEq, ← Address.ofBytes?_eq_some_iff]
    cases Address.ofBytes? bytes <;> simp

theorem decode_eq_wrongLength_iff {n : Nat} :
    decode s = .error (.wrongLength n) ↔
      n ≠ 20 ∧ ∃ bytes, bytes.length = n ∧ Canonical s.toList bytes := by
  simp only [canonical_iff_decode]
  cases h : Base64.decode (Text.utf8 s.toList) with
  | error fault => simp [decode, h]
  | ok bytes =>
    simp only [decode, h, Except.ok.injEq]
    cases ha : Address.ofBytes? bytes with
    | some a =>
      have hlength : bytes.length = 20 := Address.ofBytes?_eq_some_iff.1 ha ▸ a.length_bytes
      simp [hlength, eq_comm]
    | none =>
      have hlength := Address.ofBytes?_eq_none_iff.1 ha
      simp only [Except.error.injEq, MemoError.wrongLength.injEq, exists_eq_right']
      constructor
      · rintro rfl
        exact ⟨hlength, rfl⟩
      · exact fun hn => hn.2

theorem decode_eq_notBase64_iff :
    (∃ fault, decode s = .error (.notBase64 fault)) ↔ ∀ bytes, ¬ Canonical s.toList bytes := by
  simp only [canonical_iff_decode]
  cases h : Base64.decode (Text.utf8 s.toList) with
  | error fault => simp [decode, h]
  | ok bytes =>
    simp only [decode, h]
    cases Address.ofBytes? bytes <;> simp

theorem padded_of_canonical (h : Canonical s.toList a.bytes) :
    s.length = 28 ∧ ∃ symbols, s.toList = symbols ++ ['='] ∧ '=' ∉ symbols := by
  obtain ⟨symbols, padding, htext, hs⟩ := h
  have hlength := hs.length_eq
  have hlt := hs.padding_lt
  rw [a.length_bytes] at hlength
  obtain rfl : padding = 1 := by omega
  refine ⟨?_, symbols, htext, fun hpad => ?_⟩
  · rw [← String.length_toList, htext, List.length_append, List.length_replicate]
    omega
  · exact absurd (hs.mem_alphabet _ hpad) (by decide)

theorem decode_inverts_ofAddress :
    (∀ a, Canonical (ofAddress a).text.toList a.bytes) ∧
      (∀ s a, decode s = .ok a ↔ s = (ofAddress a).text) ∧
      (∀ a, decode (ofAddress a).text = .ok a) ∧
      (∀ s t a, decode s = .ok a → decode t = .ok a → s = t) ∧
      (∀ s a, decode s = .ok a →
        s.length = 28 ∧ ∃ symbols, s.toList = symbols ++ ['='] ∧ '=' ∉ symbols) ∧
      (∀ s n, decode s = .error (.wrongLength n) ↔
        n ≠ 20 ∧ ∃ bytes, bytes.length = n ∧ Canonical s.toList bytes) ∧
      ∀ s, (∃ fault, decode s = .error (.notBase64 fault)) ↔ ∀ bytes, ¬ Canonical s.toList bytes := by
  have haccepts : ∀ s a, decode s = .ok a ↔ s = (ofAddress a).text :=
    fun s a => decode_eq_ok_iff.trans canonical_iff_eq_ofAddress
  refine ⟨canonical_ofAddress, haccepts, fun a => (haccepts _ a).2 rfl, ?_, ?_, ?_, ?_⟩
  · intro s t a hs ht
    rw [(haccepts s a).1 hs, (haccepts t a).1 ht]
  · intro s a hs
    exact padded_of_canonical (decode_eq_ok_iff.1 hs)
  · exact fun s n => decode_eq_wrongLength_iff
  · exact fun s => decode_eq_notBase64_iff

example : decode "AAAA" = .error (.wrongLength 3) := by
  decide +kernel

end Memo
end TokenBridge
