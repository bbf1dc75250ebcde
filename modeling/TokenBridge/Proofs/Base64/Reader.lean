import Mathlib.Data.List.TakeWhile
import TokenBridge.Proofs.Text.Utf8
import TokenBridge.Base64

namespace TokenBridge.Base64

def code (c : Char) : UInt8 :=
  UInt8.ofNat c.toNat

structure Quad (ns : List Nat) : Prop where
  lt : ∀ n ∈ ns, n < 64
  two_le : 2 ≤ ns.length
  le_four : ns.length ≤ 4
  spare : spareBits ns = 0

def quadText (ns : List Nat) : List Char :=
  ns.map symbol ++ List.replicate (4 - ns.length) '='

variable {b : UInt8} {n offset : Nat} {ns : List Nat} {text bytes quad : Bytes}

theorem value?_code_symbol (h : n < 64) : value? (code (symbol n)) = some n := by
  have hall : ∀ m : Fin 64, value? (code (symbol m)) = some m.val := by decide +kernel
  exact hall ⟨n, h⟩

theorem of_value? (h : value? b = some n) : n < 64 ∧ b = code (symbol n) := by
  have hall : ∀ m : Fin 256, (value? (UInt8.ofNat m)).all fun n =>
      n < 64 && UInt8.ofNat m = code (symbol n) := by decide +kernel
  have hb := hall ⟨b.toNat, b.toNat_lt⟩
  rw [UInt8.ofNat_toNat, h] at hb
  simpa using hb

theorem code_symbol_ne_pad (h : n < 64) : code (symbol n) ≠ pad := by
  intro heq
  have hv := value?_code_symbol h
  rw [heq] at hv
  cases hv

theorem readSymbols_code (h : ∀ n ∈ ns, n < 64) :
    readSymbols offset ((ns.map symbol).map code) = .ok ns := by
  induction ns generalizing offset with
  | nil => rfl
  | cons n ns ih =>
    obtain ⟨hn, hns⟩ := List.forall_mem_cons.1 h
    simp only [List.map_cons, readSymbols, value?_code_symbol hn, ih hns]

theorem of_readSymbols (h : readSymbols offset text = .ok ns) :
    (∀ n ∈ ns, n < 64) ∧ text = (ns.map symbol).map code := by
  fun_induction readSymbols offset text generalizing ns with
  | case1 => cases h; simp
  | case2 => cases h
  | case3 offset b rest n hv ns' hrest ih =>
    cases h
    obtain ⟨hn, rfl⟩ := of_value? hv
    obtain ⟨hns, rfl⟩ := ih hrest
    exact ⟨List.forall_mem_cons.2 ⟨hn, hns⟩, rfl⟩
  | case4 => cases h

theorem readLast_code (hq : Quad ns) : readLast offset ((quadText ns).map code) = .ok ns := by
  have hbody : ∀ x ∈ (ns.map symbol).map code, decide (x ≠ pad) = true := by
    simp only [List.map_map, List.mem_map, Function.comp_apply, decide_eq_true_eq]
    rintro x ⟨n, hn, rfl⟩
    exact code_symbol_ne_pad (hq.lt n hn)
  have hpad : ∀ k, (List.replicate k pad).takeWhile (· ≠ pad) = [] ∧
      (List.replicate k pad).dropWhile (· ≠ pad) = List.replicate k pad := by
    intro k
    cases k <;> simp [List.replicate_succ]
  have htext : (quadText ns).map code =
      (ns.map symbol).map code ++ List.replicate (4 - ns.length) pad := by
    simp only [quadText, List.map_append, List.map_replicate]
    rfl
  have htwo := hq.two_le
  simp only [readLast, htext, List.takeWhile_append_of_pos hbody, List.dropWhile_append_of_pos hbody,
    hpad, List.append_nil, readSymbols_code hq.lt]
  rw [if_neg]
  simp
  omega

theorem of_readLast (h : readLast offset quad = .ok ns) (htwo : 2 ≤ ns.length)
    (hfour : quad.length = 4) (hspare : spareBits ns = 0) : Quad ns ∧ quad = (quadText ns).map code := by
  simp only [readLast] at h
  cases hread : readSymbols offset (quad.takeWhile (· ≠ pad)) with
  | error e =>
    rw [hread] at h
    cases h
  | ok symbols =>
    simp only [hread] at h
    split at h
    · cases h
    · next hpadding =>
      cases h
      obtain ⟨hlt, hbody⟩ := of_readSymbols hread
      have hlength : (quad.takeWhile (· ≠ pad)).length = ns.length := by rw [hbody]; simp
      have hsplit := List.takeWhile_append_dropWhile (p := (· ≠ pad)) (l := quad)
      have hrest : (quad.dropWhile (· ≠ pad)) = List.replicate (4 - ns.length) pad := by
        refine List.eq_replicate_iff.2 ⟨?_, ?_⟩
        · have := congrArg List.length hsplit
          rw [List.length_append] at this
          omega
        · intro x hx
          by_contra hne
          refine hpadding ⟨List.ne_nil_of_mem hx, .inr ?_⟩
          exact List.any_eq_true.2 ⟨x, hx, by simpa using hne⟩
      refine ⟨⟨hlt, htwo, ?_, hspare⟩, ?_⟩
      · have := (List.takeWhile_prefix (· ≠ pad) (l := quad)).length_le
        omega
      · rw [← hsplit, hbody, hrest, quadText, List.map_append, List.map_replicate]
        rfl

theorem length_quadText (hq : Quad ns) : (quadText ns).length = 4 := by
  have := hq.le_four
  rw [quadText, List.length_append, List.length_map, List.length_replicate]
  omega

theorem decodeLast_code (hq : Quad ns) : decodeLast offset ((quadText ns).map code) = .ok (bytesOf ns) := by
  have htwo : ¬ ns.length < 2 := Nat.not_lt.2 hq.two_le
  have hfour : ¬ ((quadText ns).map code).length ≠ 4 := by simp [length_quadText hq]
  rw [decodeLast, readLast_code hq]
  simp only [bind, Except.bind, if_neg htwo, if_neg hfour, hq.spare, ne_eq, not_true_eq_false, ↓reduceIte]

theorem of_decodeLast (h : decodeLast offset quad = .ok bytes) :
    ∃ ns, Quad ns ∧ quad = (quadText ns).map code ∧ bytes = bytesOf ns := by
  rw [decodeLast] at h
  cases hread : readLast offset quad with
  | error e =>
    rw [hread] at h
    cases h
  | ok ns =>
    simp only [hread, bind, Except.bind] at h
    split at h
    · cases h
    split at h
    · cases h
    split at h
    · cases h
    · next htwo hfour hspare =>
      cases h
      obtain ⟨hq, htext⟩ := of_readLast hread (Nat.not_lt.1 htwo) (not_not.1 hfour) (not_not.1 hspare)
      exact ⟨ns, hq, htext, rfl⟩

theorem toNat_ofNat {n : Nat} (h : n < 256) : (UInt8.ofNat n).toNat = n := by
  rw [UInt8.toNat_ofNat']
  omega

theorem encode_bytesOf_append (hq : Quad ns) (h : ns.length = 4) (more : Bytes) :
    encode (bytesOf ns ++ more) = quadText ns ++ encode more := by
  obtain ⟨hlt, -, -, -⟩ := hq
  match ns, h, hlt with
  | [a, b, c, d], _, hlt =>
    obtain ⟨ha, hb, hc, hd⟩ : a < 64 ∧ b < 64 ∧ c < 64 ∧ d < 64 := by simpa using hlt
    have hfirst : (a * 4 + b / 16) / 4 = a := by omega
    have hsecond : (a * 4 + b / 16) % 4 * 16 + (b % 16 * 16 + c / 4) / 16 = b := by omega
    have hthird : (b % 16 * 16 + c / 4) % 16 * 4 + (c % 4 * 64 + d) / 64 = c := by omega
    have hfourth : (c % 4 * 64 + d) % 64 = d := by omega
    simp only [bytesOf, List.cons_append, List.nil_append, encode,
      toNat_ofNat (by omega : a * 4 + b / 16 < 256), toNat_ofNat (by omega : b % 16 * 16 + c / 4 < 256),
      toNat_ofNat (by omega : c % 4 * 64 + d < 256), hfirst, hsecond, hthird, hfourth]
    rfl

theorem encode_bytesOf (hq : Quad ns) : encode (bytesOf ns) = quadText ns := by
  obtain ⟨hlt, htwo, hfour, hspare⟩ := hq
  match ns, hlt, htwo, hfour, hspare with
  | [a, b], hlt, _, _, hspare =>
    obtain ⟨ha, hb⟩ : a < 64 ∧ b < 64 := by simpa using hlt
    have hspare : b % 16 = 0 := hspare
    have hfirst : (a * 4 + b / 16) / 4 = a := by omega
    have hsecond : (a * 4 + b / 16) % 4 * 16 = b := by omega
    simp only [bytesOf, encode, toNat_ofNat (by omega : a * 4 + b / 16 < 256), hfirst, hsecond]
    rfl
  | [a, b, c], hlt, _, _, hspare =>
    obtain ⟨ha, hb, hc⟩ : a < 64 ∧ b < 64 ∧ c < 64 := by simpa using hlt
    have hspare : c % 4 = 0 := hspare
    have hfirst : (a * 4 + b / 16) / 4 = a := by omega
    have hsecond : (a * 4 + b / 16) % 4 * 16 + (b % 16 * 16 + c / 4) / 16 = b := by omega
    have hthird : (b % 16 * 16 + c / 4) % 16 * 4 = c := by omega
    simp only [bytesOf, encode, toNat_ofNat (by omega : a * 4 + b / 16 < 256),
      toNat_ofNat (by omega : b % 16 * 16 + c / 4 < 256), hfirst, hsecond, hthird]
    rfl
  | [a, b, c, d], hlt, htwo, hfour, hspare =>
    simpa [encode] using encode_bytesOf_append ⟨hlt, htwo, hfour, hspare⟩ rfl []

theorem exists_quad {chunk : Bytes} (hne : chunk ≠ []) (hle : chunk.length ≤ 3) :
    ∃ ns, Quad ns ∧ ns.length = chunk.length + 1 ∧ bytesOf ns = chunk := by
  match chunk, hne, hle with
  | [a], _, _ =>
    have ha := a.toNat_lt
    have hfirst : a.toNat / 4 * 4 + a.toNat % 4 * 16 / 16 = a.toNat := by omega
    refine ⟨[a.toNat / 4, a.toNat % 4 * 16], ⟨?_, by simp, by simp, ?_⟩, rfl, ?_⟩
    · simp
      omega
    · simp [spareBits]
    · simp only [bytesOf, hfirst, UInt8.ofNat_toNat]
  | [a, b], _, _ =>
    have ha := a.toNat_lt
    have hb := b.toNat_lt
    have hfirst : a.toNat / 4 * 4 + (a.toNat % 4 * 16 + b.toNat / 16) / 16 = a.toNat := by omega
    have hsecond : (a.toNat % 4 * 16 + b.toNat / 16) % 16 * 16 + b.toNat % 16 * 4 / 4 = b.toNat := by
      omega
    refine ⟨[a.toNat / 4, a.toNat % 4 * 16 + b.toNat / 16, b.toNat % 16 * 4],
      ⟨?_, by simp, by simp, ?_⟩, rfl, ?_⟩
    · simp
      omega
    · simp [spareBits]
    · simp only [bytesOf, hfirst, hsecond, UInt8.ofNat_toNat]
  | [a, b, c], _, _ =>
    have ha := a.toNat_lt
    have hb := b.toNat_lt
    have hc := c.toNat_lt
    have hfirst : a.toNat / 4 * 4 + (a.toNat % 4 * 16 + b.toNat / 16) / 16 = a.toNat := by omega
    have hsecond : (a.toNat % 4 * 16 + b.toNat / 16) % 16 * 16 +
        (b.toNat % 16 * 4 + c.toNat / 64) / 4 = b.toNat := by omega
    have hthird : (b.toNat % 16 * 4 + c.toNat / 64) % 4 * 64 + c.toNat % 64 = c.toNat := by omega
    refine ⟨[a.toNat / 4, a.toNat % 4 * 16 + b.toNat / 16, b.toNat % 16 * 4 + c.toNat / 64,
      c.toNat % 64], ⟨?_, by simp, by simp, by simp [spareBits]⟩, rfl, ?_⟩
    · simp
      omega
    · simp only [bytesOf, hfirst, hsecond, hthird, UInt8.ofNat_toNat]

theorem quadText_eq_map (h : ns.length = 4) : quadText ns = ns.map symbol := by
  simp [quadText, h]

theorem decodeFrom_of_length_le (hne : text ≠ []) (hle : text.length ≤ 4) :
    decodeFrom offset text = decodeLast offset text := by
  rw [decodeFrom]
  · rintro a b c d e rest rfl
    simp only [List.length_cons] at hle
    omega
  · exact fun h => hne h

theorem decodeFrom_append (h : quad.length = 4) (hne : text ≠ []) :
    decodeFrom offset (quad ++ text) = do
      return bytesOf (← readSymbols offset quad) ++ (← decodeFrom (offset + 4) text) := by
  match quad, h, text, hne with
  | [a, b, c, d], _, e :: rest, _ => rfl

theorem encode_ne_nil (h : bytes ≠ []) : encode bytes ≠ [] := by
  fun_cases encode bytes <;> simp_all

theorem decodeFrom_encode_short (offset : Nat) {chunk : Bytes} (hne : chunk ≠ []) (hle : chunk.length ≤ 3) :
    decodeFrom offset ((encode chunk).map code) = .ok chunk := by
  obtain ⟨ns, hq, -, rfl⟩ := exists_quad hne hle
  have hlength : ((quadText ns).map code).length = 4 := by rw [List.length_map, length_quadText hq]
  rw [encode_bytesOf hq, decodeFrom_of_length_le (List.ne_nil_of_length_eq_add_one hlength) hlength.le,
    decodeLast_code hq]

theorem decodeFrom_encode (offset : Nat) (bytes : Bytes) :
    decodeFrom offset ((encode bytes).map code) = .ok bytes := by
  fun_induction encode bytes generalizing offset with
  | case1 => rfl
  | case2 a => exact decodeFrom_encode_short offset (List.cons_ne_nil a []) (by simp)
  | case3 a b => exact decodeFrom_encode_short offset (List.cons_ne_nil a [b]) (by simp)
  | case4 a b c rest ih =>
    by_cases hrest : rest = []
    · subst hrest
      exact decodeFrom_encode_short offset (List.cons_ne_nil a [b, c]) (by simp)
    · obtain ⟨ns, hq, hlength, hbytes⟩ := exists_quad (List.cons_ne_nil a [b, c]) (by simp)
      have hencode : encode (a :: b :: c :: rest) = quadText ns ++ encode rest := by
        rw [← encode_bytesOf_append hq hlength, hbytes]
        rfl
      have hquad : ((quadText ns).map code).length = 4 := by rw [List.length_map, length_quadText hq]
      change decodeFrom offset ((encode (a :: b :: c :: rest)).map code) = _
      rw [hencode, List.map_append, decodeFrom_append hquad (by simp [encode_ne_nil hrest]),
        quadText_eq_map hlength, readSymbols_code hq.lt, ih]
      simp [bind, Except.bind, pure, Except.pure, hbytes]

theorem of_decodeFrom (h : decodeFrom offset text = .ok bytes) : text = (encode bytes).map code := by
  fun_induction decodeFrom offset text generalizing bytes with
  | case1 offset a b c d e rest ih =>
    cases hread : readSymbols offset [a, b, c, d] with
    | error fault =>
      rw [hread] at h
      cases h
    | ok ns =>
      cases hmore : decodeFrom (offset + 4) (e :: rest) with
      | error fault =>
        rw [hread, hmore] at h
        cases h
      | ok more =>
        rw [hread, hmore] at h
        cases h
        obtain ⟨hlt, hquad⟩ := of_readSymbols hread
        have hlength : ns.length = 4 := by simpa using (congrArg List.length hquad).symm
        have hq : Quad ns := by
          refine ⟨hlt, by omega, by omega, ?_⟩
          match ns, hlength with
          | [_, _, _, _], _ => rfl
        rw [encode_bytesOf_append hq hlength, quadText_eq_map hlength, List.map_append, ← hquad, ← ih hmore]
        rfl
  | case2 => cases h; rfl
  | case3 offset quad hmany hne =>
    obtain ⟨ns, hq, htext, rfl⟩ := of_decodeLast h
    rw [htext, encode_bytesOf hq]

theorem length_encode_mod (bytes : Bytes) : (encode bytes).length % 4 = 0 := by
  fun_induction encode bytes with
  | case1 => rfl
  | case2 => simp
  | case3 => simp
  | case4 a b c rest ih =>
    simp only [List.length_cons]
    omega

theorem decode_eq_ok_iff : decode text = .ok bytes ↔ text = (encode bytes).map code := by
  constructor
  · intro h
    rw [decode] at h
    split at h
    · cases h
    · exact of_decodeFrom h
  · rintro rfl
    have hlength : ((encode bytes).map code).length % 4 = 0 := by
      rw [List.length_map, length_encode_mod]
    have hend : strayEnd? ((encode bytes).map code) = none := by
      rw [strayEnd?]
      split
      · rw [if_neg]
        rintro ⟨hone, -⟩
        omega
      · rfl
    rw [decode, hend]
    exact decodeFrom_encode 0 bytes

theorem toNat_symbol_le (n : Nat) : (symbol n).toNat ≤ 0x7F := by
  by_cases h : n < 62
  · have hall : ∀ m : Fin 62, (symbol m).toNat ≤ 0x7F := by decide +kernel
    exact hall ⟨n, h⟩
  · rw [symbol, if_neg (by omega), if_neg (by omega), if_neg h]
    split <;> decide

theorem ascii_encode (bytes : Bytes) : ∀ c ∈ encode bytes, c.toNat ≤ 0x7F := by
  fun_induction encode bytes with
  | case1 => simp
  | case2 => simp [toNat_symbol_le]
  | case3 => simp [toNat_symbol_le]
  | case4 a b c rest ih =>
    simp only [List.forall_mem_cons, toNat_symbol_le, true_and]
    exact ih

theorem decode_utf8_eq_ok_iff {s : List Char} : decode (Text.utf8 s) = .ok bytes ↔ s = encode bytes := by
  have hcode : (encode bytes).map code = Text.utf8 (encode bytes) := (Text.utf8_of_ascii (ascii_encode bytes)).symm
  rw [decode_eq_ok_iff, hcode, Text.utf8_injective.eq_iff]

end TokenBridge.Base64
