import TokenBridge.Json.Token

namespace TokenBridge.Json

/-- What may stand between two quotes, with the pieces that it is made of. -/
inductive Body : List Piece → List Char → Prop
  | nil : Body [] []
  | char {c : Char} {pieces : List Piece} {s : List Char} :
      c ≠ '"' → c ≠ '\\' → 0x20 ≤ c.toNat → Body pieces s → Body (.char c :: pieces) (c :: s)
  | escape {e c : Char} {pieces : List Piece} {s : List Char} :
      unescape? e = some c → Body pieces s → Body (.char c :: pieces) ('\\' :: e :: s)
  | unit {a b c d : Char} {u : Nat} {pieces : List Piece} {s : List Char} :
      hexUnit? a b c d = some u → Body pieces s →
        Body (.unit u :: pieces) ('\\' :: 'u' :: a :: b :: c :: d :: s)

/-- The text of some pieces: a unit outside the surrogates is a character, and so are two surrogates of a pair. -/
inductive Joined : List Piece → List Char → Prop
  | nil : Joined [] []
  | char {c : Char} {pieces : List Piece} {text : List Char} :
      Joined pieces text → Joined (.char c :: pieces) (c :: text)
  | unit {u : Nat} {pieces : List Piece} {text : List Char} :
      u < 0xD800 ∨ 0xDFFF < u → Joined pieces text → Joined (.unit u :: pieces) (Char.ofNat u :: text)
  | pair {u v : Nat} {pieces : List Piece} {text : List Char} :
      0xD800 ≤ u → u < 0xDC00 → 0xDC00 ≤ v → v ≤ 0xDFFF → Joined pieces text →
        Joined (.unit u :: .unit v :: pieces)
          (Char.ofNat (0x10000 + (u - 0xD800) * 0x400 + (v - 0xDC00)) :: text)

variable {pieces : List Piece} {s rest text : List Char} {c e : Char}

theorem readString_char (hquote : c ≠ '"') (hslash : c ≠ '\\') (hcontrol : 0x20 ≤ c.toNat) :
    readString (c :: s) = (readString s).map fun r => (.char c :: r.1, r.2) := by
  rw [readString.eq_def]
  split
  · next h => cases h
  · next h => exact absurd (List.cons.inj h).1 hquote
  · next h => exact absurd (List.cons.inj h).1 hslash
  · next h => exact absurd (List.cons.inj h).1 hslash
  · next h =>
    cases h
    rw [if_neg (by simp [hslash, hcontrol])]
    cases readString s <;> rfl

theorem readString_escape (h : unescape? e = some c) :
    readString ('\\' :: e :: s) = (readString s).map fun r => (.char c :: r.1, r.2) := by
  rw [readString.eq_def]
  split
  · next hs => cases hs
  · next hs => cases hs
  · next hs =>
    cases hs
    cases h
  · next hs =>
    cases hs
    rw [h]
    cases readString s <;> rfl
  · next hnone hs =>
    cases hs
    exact absurd rfl (hnone e s rfl)

theorem Body.readString (h : Body pieces s) (rest : List Char) :
    readString (s ++ '"' :: rest) = some (pieces, rest) := by
  induction h with
  | nil => rfl
  | char hquote hslash hcontrol _ ih =>
    rw [List.cons_append, readString_char hquote hslash hcontrol, ih]
    rfl
  | escape he _ ih =>
    rw [List.cons_append, List.cons_append, readString_escape he, ih]
    rfl
  | unit hu _ ih =>
    simp only [List.cons_append, Json.readString, hu, ih]
    rfl

theorem body_of_readString (h : readString s = some (pieces, rest)) :
    ∃ body, Body pieces body ∧ s = body ++ '"' :: rest := by
  fun_induction readString s generalizing pieces with
  | case1 => cases h
  | case2 =>
    cases h
    exact ⟨[], .nil, rfl⟩
  | case3 a b c d s ih =>
    simp only [bind, Option.bind_eq_some_iff] at h
    obtain ⟨u, hu, ⟨pieces', rest'⟩, hread, he⟩ := h
    cases he
    obtain ⟨body, hbody, rfl⟩ := ih hread
    exact ⟨_, .unit hu hbody, rfl⟩
  | case4 e s _ ih =>
    simp only [bind, Option.bind_eq_some_iff] at h
    obtain ⟨c, hc, ⟨pieces', rest'⟩, hread, he⟩ := h
    cases he
    obtain ⟨body, hbody, rfl⟩ := ih hread
    exact ⟨_, .escape hc hbody, rfl⟩
  | case5 => cases h
  | case6 c s hquote _ _ hplain ih =>
    simp only [bind, Option.bind_eq_some_iff] at h
    obtain ⟨⟨pieces', rest'⟩, hread, he⟩ := h
    cases he
    obtain ⟨body, hbody, rfl⟩ := ih hread
    rw [not_or, Nat.not_lt] at hplain
    exact ⟨_, .char hquote hplain.1 hplain.2 hbody, rfl⟩

theorem Joined.join_eq (h : Joined pieces text) : join pieces = some text := by
  induction h with
  | nil => rfl
  | char _ ih =>
    rw [join, ih]
    rfl
  | unit hu _ ih =>
    rw [join.eq_def]
    dsimp only
    rw [if_pos hu, ih]
    rfl
  | pair hu hlow hv hhigh _ ih =>
    rw [join, if_neg (by omega)]
    simp only [hlow, hv, hhigh, and_self, ↓reduceIte, ih]
    rfl

theorem joined_of_join (h : join pieces = some text) : Joined pieces text := by
  fun_induction join pieces generalizing text with
  | case1 =>
    cases h
    exact .nil
  | case2 c rest ih =>
    obtain ⟨text, htext, rfl⟩ := Option.map_eq_some_iff.1 h
    exact .char (ih htext)
  | case3 u rest hu ih =>
    obtain ⟨text, htext, rfl⟩ := Option.map_eq_some_iff.1 h
    exact .unit hu (ih htext)
  | case4 u hu v rest hv ih =>
    obtain ⟨text, htext, rfl⟩ := Option.map_eq_some_iff.1 h
    exact .pair (by omega) hv.1 hv.2.1 hv.2.2 (ih htext)
  | case5 => cases h
  | case6 => cases h

theorem join_eq_some_iff : join pieces = some text ↔ Joined pieces text :=
  ⟨joined_of_join, Joined.join_eq⟩

end TokenBridge.Json
