import TokenBridge.Evm.Abi
import TokenBridge.Proofs.Text.Utf8

namespace TokenBridge

theorem drop_bigEndian (spare size n : Nat) :
    (bigEndian (spare + size) n).drop spare = bigEndian size n := by
  induction size generalizing n with
  | zero =>
    rw [Nat.add_zero, bigEndian]
    exact List.drop_of_length_le (by simp)
  | succ size ih =>
    rw [← Nat.add_assoc, bigEndian, List.drop_append_of_le_length (by simp), ih]
    rfl

namespace Abi

theorem size_bigEndian {n : Nat} (h : n < 2 ^ 64) : size (bigEndian wordSize n) = n := by
  have hdrop : (bigEndian wordSize n).drop (wordSize - 8) = bigEndian 8 n := drop_bigEndian 24 8 n
  rw [size, hdrop, ofBigEndian_bigEndian]
  exact Nat.mod_eq_of_lt h

theorem wordAt?_append {word : Bytes} (h : word.length = wordSize) (rest : Bytes) :
    wordAt? (word ++ rest) = some word := by
  rw [wordAt?, if_pos (by simp [h]), ← h, List.take_left]

@[simp] theorem length_head (place : Nat) (k : Kind) (v : k.Val) : (head place k v).length = wordSize := by
  cases k with
  | word => exact length_bigEndian _ _
  | byte => exact length_bigEndian _ _
  | address => simp [head, v.length_bytes, wordSize, Address.size]
  | text => exact length_bigEndian _ _

variable {data after : Bytes} {place : Nat}

theorem textAt?_tail {s : String} (hplace : place ≤ data.length)
    (hdata : data.drop place = tail .text s ++ after) (hfits : (tail .text s).length < 2 ^ 64) :
    textAt? data place = some s := by
  have hlength : (Text.utf8 s.toList).length < 2 ^ 64 := by
    simp only [tail, padded, List.length_append] at hfits
    omega
  have hrest : data.drop (place + wordSize) = padded (Text.utf8 s.toList) ++ after := by
    rw [← List.drop_drop, hdata, tail, List.append_assoc]
    exact List.drop_left' (length_bigEndian _ _)
  have hword : wordAt? (data.drop place) = some (bigEndian wordSize (Text.utf8 s.toList).length) := by
    rw [hdata, tail, List.append_assoc]
    exact wordAt?_append (length_bigEndian _ _) _
  have hread : ¬ (padded (Text.utf8 s.toList) ++ after).length < (Text.utf8 s.toList).length := by
    simp only [padded, List.length_append]
    omega
  have htake : (padded (Text.utf8 s.toList) ++ after).take (Text.utf8 s.toList).length =
      Text.utf8 s.toList := by
    rw [padded, List.append_assoc, List.take_left]
  rw [textAt?, if_neg (Nat.not_lt.2 hplace), hword, hrest]
  simp only [Option.bind_eq_bind, Option.bind_some, size_bigEndian hlength, if_neg hread, htake,
    Text.ofUtf8Lossy_utf8, String.ofList_toList]

theorem value?_head {k : Kind} {v : k.Val} (hplace : place ≤ data.length)
    (hdata : data.drop place = tail k v ++ after) (hfits : place + (tail k v).length < 2 ^ 64) :
    value? data (head place k v) k = some v := by
  cases k with
  | word => exact Word.ofBytes?_bytes v
  | byte =>
    have hmod : UInt8.ofNat (v.toNat % 256) = v := by
      rw [Nat.mod_eq_of_lt v.toNat_lt, UInt8.ofNat_toNat]
    rw [value?, head, wordSize, bigEndian, List.getLast?_append, hmod]
    rfl
  | address =>
    have hdrop : (head place .address v).drop (wordSize - Address.size) = v.bytes :=
      List.drop_left' (List.length_replicate ..)
    rw [value?, hdrop]
    exact Address.ofBytes?_bytes v
  | text =>
    rw [value?, head, size_bigEndian (by omega)]
    exact textAt?_tail hplace hdata (by omega)

theorem row?_heads {ks : List Kind} {row : Row ks} {rest : Bytes} (hplace : place ≤ data.length)
    (hdata : data.drop place = tails ks row) (hfits : place + (tails ks row).length < 2 ^ 64) :
    row? data (heads place ks row ++ rest) ks = some row := by
  induction ks generalizing place with
  | nil => rfl
  | cons k ks ih =>
    obtain ⟨v, row⟩ := row
    rw [tails] at hdata hfits
    rw [List.length_append] at hfits
    have hnext : place + (tail k v).length ≤ data.length := by
      have := congrArg List.length hdata
      simp only [List.length_drop, List.length_append] at this
      omega
    have hdata' : data.drop (place + (tail k v).length) = tails ks row := by
      rw [← List.drop_drop, hdata, List.drop_left]
    have hdrop : (head place k v ++ (heads (place + (tail k v).length) ks row ++ rest)).drop wordSize =
        heads (place + (tail k v).length) ks row ++ rest := List.drop_left' (length_head place k v)
    rw [heads, List.append_assoc, row?, wordAt?_append (length_head place k v), hdrop]
    simp only [Option.bind_eq_bind, Option.bind_some, value?_head hplace hdata (by omega),
      ih hnext hdata' (by omega)]
    rfl

theorem length_heads (place : Nat) (ks : List Kind) (row : Row ks) :
    (heads place ks row).length = wordSize * ks.length := by
  induction ks generalizing place with
  | nil => rfl
  | cons k ks ih =>
    rw [heads, List.length_append, length_head, ih, List.length_cons, Nat.mul_succ, Nat.add_comm]

variable {ks : List Kind} {row : Row ks}

theorem decodeLoosely_encode (hfits : (encode ks row).length < 2 ^ 64) :
    decodeLoosely ks (encode ks row) = some row := by
  have hheads := length_heads (wordSize * ks.length) ks row
  rw [encode, List.length_append, hheads] at hfits
  refine row?_heads ?_ ?_ hfits
  · rw [encode, List.length_append, hheads]
    exact Nat.le_add_right _ _
  · exact List.drop_left' hheads

theorem decode_encode (hfits : (encode ks row).length < 2 ^ 64) :
    decode ks (encode ks row) = some row := by
  rw [decode, decodeLoosely_encode hfits]
  simp

end Abi
end TokenBridge
