import TokenBridge.Evm.Address
import TokenBridge.Proofs.Hex
import TokenBridge.Proofs.Text.Trim

namespace TokenBridge

theorem Keccak.length_bytesOfLane (w : UInt64) : (bytesOfLane w).length = 8 := by
  simp [bytesOfLane]

theorem length_keccak256 (message : Bytes) : (keccak256 message).length = 32 := by
  simp [keccak256, List.length_flatMap, Keccak.length_bytesOfLane]

theorem Hex.readExactly_eq_ok_iff {n : Nat} {s : String} {bytes : Bytes} :
    readExactly n s = .ok bytes ↔
      bytes.length = n ∧ decodeFrom 0 (Text.utf8 (unmarkAnyCase s.toList)) = .ok bytes := by
  constructor
  · intro h
    refine ⟨length_of_readExactly h, ?_⟩
    simp only [readExactly] at h
    split at h
    · cases h
    · split at h
      · cases h
      · exact h
  · rintro ⟨rfl, h⟩
    have hlength := length_of_decodeFrom h
    simp only [readExactly]
    rw [if_neg (by omega), if_neg (by omega), h]

namespace Address

structure Names (digits : List Char) (a : Address) : Prop where
  isDigit : ∀ c ∈ digits, Hex.isDigit c
  lower_eq : digits.map Char.toLower = Hex.encode a.bytes

variable {a b : Address} {digits marks s : List Char} {text : String}

theorem names_iff : Names digits a ↔ Hex.decodeFrom 0 (Text.utf8 digits) = .ok a.bytes := by
  rw [Hex.decodeFrom_utf8_eq_ok_iff]
  exact ⟨fun h => ⟨h.isDigit, h.lower_eq⟩, fun h => ⟨h.1, h.2⟩⟩

theorem Names.length_eq (h : Names digits a) : digits.length = 40 := by
  rw [← List.length_map Char.toLower, h.lower_eq, Hex.length_encode, a.length_bytes]

theorem exists_names_iff : (∃ a, Names digits a) ↔ digits.length = 40 ∧ ∀ c ∈ digits, Hex.isDigit c := by
  constructor
  · rintro ⟨a, h⟩
    exact ⟨h.length_eq, h.isDigit⟩
  · rintro ⟨hlength, hdigits⟩
    obtain ⟨bytes, hbytes, hlower⟩ := Hex.exists_encode_eq (n := 20) hdigits hlength
    exact ⟨⟨bytes, hbytes⟩, hdigits, hlower⟩

theorem read_eq_ok_iff : read text = .ok a ↔ Names (Hex.unmarkAnyCase text.toList) a := by
  have hread : read text = .ok a ↔ Hex.readExactly 20 text = .ok a.bytes := by
    rw [read]
    split
    · next bytes hbytes =>
      cases a
      simp [hbytes]
    · next e he => simp [he]
  rw [hread, names_iff, Hex.readExactly_eq_ok_iff, and_iff_right a.length_bytes]

theorem names_encode (a : Address) : Names (Hex.encode a.bytes) a where
  isDigit c hc := by
    obtain ⟨n, hn, rfl⟩ := Hex.exists_digit_of_mem hc
    exact (Hex.isDigit_digit hn).1
  lower_eq := by
    refine (List.map_congr_left fun c hc => ?_).trans (List.map_id _)
    obtain ⟨n, hn, rfl⟩ := Hex.exists_digit_of_mem hc
    exact (Hex.toLower_digit hn).1

def raised (c mark : Char) : Char :=
  if '8' ≤ mark then c.toUpper else c

theorem zipWith_raised (hdigits : ∀ c ∈ digits, ∃ n < 16, c = Hex.digit n)
    (hlength : digits.length ≤ marks.length) :
    (∀ c ∈ List.zipWith raised digits marks, Hex.isDigit c) ∧
      (List.zipWith raised digits marks).map Char.toLower = digits := by
  induction digits generalizing marks with
  | nil => simp
  | cons c digits ih =>
    obtain ⟨mark, marks, rfl⟩ := List.exists_cons_of_length_pos (Nat.zero_lt_of_lt hlength)
    obtain ⟨⟨n, hn, rfl⟩, hrest⟩ := List.forall_mem_cons.1 hdigits
    obtain ⟨hmem, hlower⟩ := ih hrest (Nat.le_of_succ_le_succ hlength)
    have hfirst : Hex.isDigit (raised (Hex.digit n) mark) ∧
        (raised (Hex.digit n) mark).toLower = Hex.digit n := by
      unfold raised
      split
      · exact ⟨(Hex.isDigit_digit hn).2, (Hex.toLower_digit hn).2⟩
      · exact ⟨(Hex.isDigit_digit hn).1, (Hex.toLower_digit hn).1⟩
    rw [List.zipWith_cons_cons, List.forall_mem_cons, List.map_cons, hlower, hfirst.2]
    exact ⟨⟨hfirst.1, hmem⟩, rfl⟩

theorem names_checksumCase (a : Address) : Names (checksumCase (Hex.encode a.bytes)) a := by
  have hlength : (Hex.encode a.bytes).length ≤
      (Hex.encode (keccak256 (Text.utf8 (Hex.encode a.bytes)))).length := by
    rw [Hex.length_encode, Hex.length_encode, length_keccak256, a.length_bytes]
    omega
  obtain ⟨hdigits, hlower⟩ := zipWith_raised (fun c hc => Hex.exists_digit_of_mem hc) hlength
  exact ⟨hdigits, hlower⟩

theorem names_lower (a : Address) : Names (Hex.unmark a.lower.toList) a := by
  rw [lower, Hex.marked, String.toList_ofList]
  exact names_encode a

theorem names_checksummed (a : Address) : Names (Hex.unmark a.checksummed.toList) a := by
  rw [checksummed, String.toList_ofList]
  exact names_checksumCase a

theorem unmarkAnyCase_of_names (h : Names (Hex.unmark s) a) : Hex.unmarkAnyCase s = Hex.unmark s := by
  refine Hex.unmarkAnyCase_of_unmarked ?_
  rintro ⟨digits, rfl⟩
  have hx := h.isDigit 'X' (by simp [Hex.unmark])
  cases hx

theorem trim_checksummed (a : Address) : Text.trim a.checksummed = a.checksummed := by
  refine Text.trim_of_unblank fun c hc => ?_
  rw [checksummed, String.toList_ofList, List.mem_cons, List.mem_cons] at hc
  rcases hc with rfl | rfl | hc
  · decide
  · decide
  · exact Hex.isBlank_of_isDigit ((names_checksumCase a).isDigit c hc)

end Address
end TokenBridge
