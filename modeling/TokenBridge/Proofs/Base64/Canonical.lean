import Mathlib.Data.Nat.Digits.Lemmas
import TokenBridge.Base64

namespace TokenBridge.Base64

def alphabet : List Char :=
  "ABCDEFGHIJKLMNOPQRSTUVWXYZabcdefghijklmnopqrstuvwxyz0123456789+/".toList

def number (base : Nat) (digits : List Nat) : Nat :=
  Nat.ofDigits base digits.reverse

/-- Symbols, with the number of `=` behind them, that spell some bytes. -/
structure Spells (symbols : List Char) (padding : Nat) (bytes : Bytes) : Prop where
  mem_alphabet : ∀ c ∈ symbols, c ∈ alphabet
  padding_lt : padding < 3
  length_eq : 3 * (symbols.length + padding) = 4 * (bytes.length + padding)
  number_eq : number 64 (symbols.map alphabet.idxOf) =
    number 256 (bytes.map UInt8.toNat) * 4 ^ padding

def Canonical (text : List Char) (bytes : Bytes) : Prop :=
  ∃ symbols padding, text = symbols ++ List.replicate padding '=' ∧ Spells symbols padding bytes

variable {ns : List Nat} {symbols text : List Char} {padding : Nat} {bytes : Bytes}

theorem idxOf_symbol {n : Nat} (h : n < 64) :
    symbol n ∈ alphabet ∧ alphabet.idxOf (symbol n) = n := by
  have hall : ∀ m : Fin 64, symbol m ∈ alphabet ∧ alphabet.idxOf (symbol m) = m := by decide +kernel
  exact hall ⟨n, h⟩

theorem symbol_idxOf {c : Char} (h : c ∈ alphabet) : symbol (alphabet.idxOf c) = c := by
  have hall : (alphabet.all fun c => symbol (alphabet.idxOf c) == c) = true := by decide +kernel
  simpa using List.all_eq_true.1 hall c h

theorem number_append (base : Nat) (xs ys : List Nat) :
    number base (xs ++ ys) = number base xs * base ^ ys.length + number base ys := by
  rw [number, List.reverse_append, Nat.ofDigits_append, List.length_reverse, Nat.add_comm, Nat.mul_comm]
  rfl

theorem number_injective {xs ys : List Nat} {base : Nat} (hbase : 1 < base)
    (hlength : xs.length = ys.length) (hxs : ∀ x ∈ xs, x < base) (hys : ∀ y ∈ ys, y < base)
    (h : number base xs = number base ys) : xs = ys := by
  refine List.reverse_injective (Nat.ofDigits_inj_of_len_eq hbase ?_ ?_ ?_ h)
  · rw [List.length_reverse, List.length_reverse, hlength]
  · simpa using hxs
  · simpa using hys

theorem spells_of_values (hlt : ∀ n ∈ ns, n < 64) (hpadding : padding < 3)
    (hlength : 3 * (ns.length + padding) = 4 * (bytes.length + padding))
    (hnumber : number 64 ns = number 256 (bytes.map UInt8.toNat) * 4 ^ padding) :
    Spells (ns.map symbol) padding bytes where
  mem_alphabet := by
    simp only [List.mem_map]
    rintro c ⟨n, hn, rfl⟩
    exact (idxOf_symbol (hlt n hn)).1
  padding_lt := hpadding
  length_eq := by rwa [List.length_map]
  number_eq := by
    have hvalues : ns.map (alphabet.idxOf ∘ symbol) = ns.map id :=
      List.map_congr_left fun n hn => (idxOf_symbol (hlt n hn)).2
    rw [List.map_map, hvalues, List.map_id, hnumber]

theorem Spells.pow_eq (hs : Spells symbols padding bytes) :
    64 ^ symbols.length = 256 ^ bytes.length * 4 ^ padding := by
  have hlength : 3 * symbols.length = 4 * bytes.length + padding := by
    have := hs.length_eq
    omega
  calc 64 ^ symbols.length = 4 ^ (3 * symbols.length) := by rw [pow_mul]; norm_num
    _ = 256 ^ bytes.length * 4 ^ padding := by rw [hlength, pow_add, pow_mul]; norm_num

theorem Spells.append {first : List Char} {chunk : Bytes} (hfirst : Spells first 0 chunk)
    (hs : Spells symbols padding bytes) : Spells (first ++ symbols) padding (chunk ++ bytes) where
  mem_alphabet c hc := by
    rcases List.mem_append.1 hc with hc | hc
    · exact hfirst.mem_alphabet c hc
    · exact hs.mem_alphabet c hc
  padding_lt := hs.padding_lt
  length_eq := by
    have := hfirst.length_eq
    have := hs.length_eq
    rw [List.length_append, List.length_append]
    omega
  number_eq := by
    have hchunk := hfirst.number_eq
    rw [pow_zero, Nat.mul_one] at hchunk
    rw [List.map_append, List.map_append, number_append, number_append, hchunk, hs.number_eq,
      List.length_map, List.length_map, hs.pow_eq]
    ring

theorem Spells.idxOf_lt (hs : Spells symbols padding bytes) :
    ∀ n ∈ symbols.map alphabet.idxOf, n < 64 := by
  simp only [List.mem_map]
  rintro _ ⟨c, hc, rfl⟩
  exact List.idxOf_lt_length_of_mem (hs.mem_alphabet c hc)

theorem Spells.symbols_eq (hs : Spells symbols padding bytes) :
    (symbols.map alphabet.idxOf).map symbol = symbols := by
  have hsame : symbols.map (symbol ∘ alphabet.idxOf) = symbols.map id :=
    List.map_congr_left fun c hc => symbol_idxOf (hs.mem_alphabet c hc)
  rw [List.map_map, hsame, List.map_id]

theorem canonical_encode (bytes : Bytes) : Canonical (encode bytes) bytes := by
  fun_induction encode bytes with
  | case1 => exact ⟨[], 0, rfl, by simp, by simp, rfl, rfl⟩
  | case2 a =>
    have ha := a.toNat_lt
    refine ⟨[a.toNat / 4, a.toNat % 4 * 16].map symbol, 2, rfl, spells_of_values ?_ (by simp) rfl ?_⟩
    · simp
      omega
    · simp [number, Nat.ofDigits]
      omega
  | case3 a b =>
    have ha := a.toNat_lt
    have hb := b.toNat_lt
    refine ⟨[a.toNat / 4, a.toNat % 4 * 16 + b.toNat / 16, b.toNat % 16 * 4].map symbol, 1, rfl,
      spells_of_values ?_ (by simp) rfl ?_⟩
    · simp
      omega
    · simp [number, Nat.ofDigits]
      omega
  | case4 a b c rest ih =>
    have ha := a.toNat_lt
    have hb := b.toNat_lt
    have hc := c.toNat_lt
    obtain ⟨symbols, padding, htext, hs⟩ := ih
    have hfirst : Spells ([a.toNat / 4, a.toNat % 4 * 16 + b.toNat / 16,
        b.toNat % 16 * 4 + c.toNat / 64, c.toNat % 64].map symbol) 0 [a, b, c] := by
      refine spells_of_values ?_ (by simp) rfl ?_
      · simp
        omega
      · simp [number, Nat.ofDigits]
        omega
    refine ⟨_, padding, ?_, hfirst.append hs⟩
    rw [htext]
    rfl

theorem eq_encode_of_canonical (h : Canonical text bytes) : text = encode bytes := by
  obtain ⟨symbols, padding, rfl, hs⟩ := h
  obtain ⟨symbols', padding', htext, hs'⟩ := canonical_encode bytes
  have hpadding : padding = padding' := by
    have := hs.length_eq
    have := hs'.length_eq
    have := hs.padding_lt
    have := hs'.padding_lt
    omega
  subst hpadding
  have hlength : symbols.length = symbols'.length := by
    have := hs.length_eq
    have := hs'.length_eq
    omega
  have hvalues : symbols.map alphabet.idxOf = symbols'.map alphabet.idxOf := by
    refine number_injective (by norm_num) (by simpa using hlength) hs.idxOf_lt hs'.idxOf_lt ?_
    exact hs.number_eq.trans hs'.number_eq.symm
  rw [htext, ← hs.symbols_eq, hvalues, hs'.symbols_eq]

theorem canonical_iff : Canonical text bytes ↔ text = encode bytes := by
  constructor
  · exact eq_encode_of_canonical
  · rintro rfl
    exact canonical_encode bytes

end TokenBridge.Base64
