import Mathlib.Tactic.IntervalCases
import TokenBridge.Text.Utf8

namespace TokenBridge.Text

theorem utf8_append (s t : List Char) : utf8 (s ++ t) = utf8 s ++ utf8 t :=
  List.flatMap_append

def following (n : Nat) : UInt8 :=
  UInt8.ofNat (n % 64 + 0x80)

theorem toNat_following (n : Nat) : (following n).toNat = n % 64 + 0x80 := by
  rw [following, UInt8.toNat_ofNat']
  omega

theorem takeByte_following {p : Pending} {n : Nat} (hlow : p.low.toNat ≤ n % 64 + 0x80)
    (hhigh : n % 64 + 0x80 ≤ p.high.toNat) :
    takeByte (some p) (following n) =
      if p.following ≤ 1 then ([some (Char.ofNat (p.bits * 64 + n % 64))], none)
      else ([], some ⟨p.following - 1, 0x80, 0xBF, p.bits * 64 + n % 64⟩) := by
  have hin : (p.low ≤ following n && following n ≤ p.high) = true := by
    rw [Bool.and_eq_true, decide_eq_true_eq, decide_eq_true_eq, UInt8.le_iff_toNat_le,
      UInt8.le_iff_toNat_le, toNat_following]
    exact ⟨hlow, hhigh⟩
  simp only [takeByte, hin, ↓reduceIte, toNat_following, Nat.add_sub_cancel]

theorem utf8Scan_last {low high : UInt8} {bits n : Nat} {rest : Bytes}
    (hlow : low.toNat ≤ n % 64 + 0x80) (hhigh : n % 64 + 0x80 ≤ high.toNat) :
    utf8Scan (some ⟨1, low, high, bits⟩) (following n :: rest) =
      some (Char.ofNat (bits * 64 + n % 64)) :: utf8Scan none rest := by
  rw [utf8Scan, takeByte_following hlow hhigh]
  rfl

theorem utf8Scan_more {low high : UInt8} {due bits n : Nat} {rest : Bytes}
    (hlow : low.toNat ≤ n % 64 + 0x80) (hhigh : n % 64 + 0x80 ≤ high.toNat) :
    utf8Scan (some ⟨due + 2, low, high, bits⟩) (following n :: rest) =
      utf8Scan (some ⟨due + 1, 0x80, 0xBF, bits * 64 + n % 64⟩) rest := by
  rw [utf8Scan, takeByte_following hlow hhigh]
  simp

theorem utf8Scan_lead {b : UInt8} {l : Lead} {rest : Bytes} (hl : lead? b = some l)
    (hdue : l.following ≠ 0) : utf8Scan none (b :: rest) = utf8Scan (some l) rest := by
  rw [utf8Scan, takeByte, startByte, hl]
  simp [hdue]

theorem lead?_one {n : Nat} (h : n < 0x80) :
    lead? (UInt8.ofNat n) = some ⟨0, 0x80, 0xBF, n⟩ := by
  have hn : (UInt8.ofNat n).toNat = n := by
    rw [UInt8.toNat_ofNat']
    omega
  have hlt : UInt8.ofNat n < 0x80 := by
    rw [UInt8.lt_iff_toNat_lt, hn]
    exact h
  rw [lead?, if_pos hlt, hn]

theorem lead?_two {n : Nat} (hlow : 2 ≤ n) (hhigh : n < 32) :
    lead? (UInt8.ofNat (n + 0xC0)) = some ⟨1, 0x80, 0xBF, n⟩ := by
  interval_cases n <;> rfl

theorem lead?_three {n : Nat} (h : n < 16) :
    lead? (UInt8.ofNat (n + 0xE0)) =
      some ⟨2, if n = 0 then 0xA0 else 0x80, if n = 13 then 0x9F else 0xBF, n⟩ := by
  interval_cases n <;> rfl

theorem lead?_four {n : Nat} (h : n < 5) :
    lead? (UInt8.ofNat (n + 0xF0)) =
      some ⟨3, if n = 0 then 0x90 else 0x80, if n = 4 then 0x8F else 0xBF, n⟩ := by
  interval_cases n <;> rfl

theorem utf8Scan_one {v : Nat} (h : v ≤ 0x7F) (rest : Bytes) :
    utf8Scan none (UInt8.ofNat v :: rest) = some (Char.ofNat v) :: utf8Scan none rest := by
  rw [utf8Scan, takeByte, startByte, lead?_one (by omega)]
  rfl

theorem utf8Scan_two {v : Nat} (hlow : 0x7F < v) (hhigh : v ≤ 0x7FF) (rest : Bytes) :
    utf8Scan none (UInt8.ofNat (v / 64 % 32 + 0xC0) :: following v :: rest) =
      some (Char.ofNat v) :: utf8Scan none rest := by
  rw [Nat.mod_eq_of_lt (by omega : v / 64 < 32),
    utf8Scan_lead (lead?_two (by omega) (by omega)) (by simp),
    utf8Scan_last (by simp) (by simp; omega), Nat.mul_comm, Nat.div_add_mod]

theorem utf8Scan_three {v : Nat} (hlow : 0x7FF < v) (hhigh : v ≤ 0xFFFF)
    (hvalid : v < 0xD800 ∨ 0xDFFF < v) (rest : Bytes) :
    utf8Scan none (UInt8.ofNat (v / 4096 % 16 + 0xE0) :: following (v / 64) :: following v :: rest) =
      some (Char.ofNat v) :: utf8Scan none rest := by
  have hjoin : (v / 4096 * 64 + v / 64 % 64) * 64 + v % 64 = v := by omega
  rw [Nat.mod_eq_of_lt (by omega : v / 4096 < 16),
    utf8Scan_lead (lead?_three (by omega)) (by simp), utf8Scan_more, utf8Scan_last, hjoin]
  · simp
  · simp
    omega
  · split <;> simp
    omega
  · split <;> simp <;> omega

theorem utf8Scan_four {v : Nat} (hlow : 0xFFFF < v) (hhigh : v < 0x110000) (rest : Bytes) :
    utf8Scan none (UInt8.ofNat (v / 262144 % 8 + 0xF0) :: following (v / 4096) :: following (v / 64) ::
        following v :: rest) =
      some (Char.ofNat v) :: utf8Scan none rest := by
  have hjoin : ((v / 262144 * 64 + v / 4096 % 64) * 64 + v / 64 % 64) * 64 + v % 64 = v := by omega
  rw [Nat.mod_eq_of_lt (by omega : v / 262144 < 8),
    utf8Scan_lead (lead?_four (by omega)) (by simp), utf8Scan_more, utf8Scan_more, utf8Scan_last, hjoin]
  · simp
  · simp
    omega
  · simp
  · simp
    omega
  · split <;> simp
    omega
  · split <;> simp <;> omega

theorem utf8Scan_encoded (c : Char) (rest : Bytes) :
    utf8Scan none (String.utf8EncodeChar c ++ rest) = some c :: utf8Scan none rest := by
  have hvalid : c.val.toNat < 0xD800 ∨ 0xDFFF < c.val.toNat ∧ c.val.toNat < 0x110000 := c.valid
  have hchar : Char.ofNat c.val.toNat = c := Char.ofNat_toNat c
  rw [String.utf8EncodeChar]
  split
  · next h =>
    have hscan := utf8Scan_one h rest
    rw [hchar] at hscan
    exact hscan
  split
  · next hlow hhigh =>
    have hscan := utf8Scan_two (Nat.lt_of_not_le hlow) hhigh rest
    rw [hchar] at hscan
    exact hscan
  split
  · next hlow hhigh =>
    have hscan := utf8Scan_three (Nat.lt_of_not_le hlow) hhigh (hvalid.imp_right And.left) rest
    rw [hchar] at hscan
    exact hscan
  · next hlow =>
    have hscan := utf8Scan_four (Nat.lt_of_not_le hlow) (by omega) rest
    rw [hchar] at hscan
    exact hscan

theorem utf8Scan_utf8 (s : List Char) : utf8Scan none (utf8 s) = s.map some := by
  induction s with
  | nil => rfl
  | cons c s ih =>
    rw [utf8, List.flatMap_cons, utf8Scan_encoded, ← utf8, ih, List.map_cons]

theorem ofUtf8Lossy_utf8 (s : List Char) : ofUtf8Lossy (utf8 s) = s := by
  rw [ofUtf8Lossy, utf8Scan_utf8, List.map_map]
  exact List.map_id s

theorem ofUtf8?_utf8 (s : List Char) : ofUtf8? (utf8 s) = some s := by
  rw [ofUtf8?, utf8Scan_utf8]
  induction s with
  | nil => rfl
  | cons c s ih =>
    rw [List.map_cons, List.mapM_cons, ih]
    rfl

theorem utf8_injective : Function.Injective utf8 :=
  Function.LeftInverse.injective ofUtf8Lossy_utf8

theorem utf8_of_ascii {s : List Char} (h : ∀ c ∈ s, c.toNat ≤ 0x7F) :
    utf8 s = s.map fun c => UInt8.ofNat c.toNat := by
  induction s with
  | nil => rfl
  | cons c s ih =>
    obtain ⟨hc, hs⟩ := List.forall_mem_cons.1 h
    have hone : String.utf8EncodeChar c = [UInt8.ofNat c.toNat] := if_pos hc
    rw [utf8, List.flatMap_cons, hone, ← utf8, ih hs]
    rfl

end TokenBridge.Text
