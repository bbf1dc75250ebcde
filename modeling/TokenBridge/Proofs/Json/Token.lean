import Mathlib.Data.List.Chain
import TokenBridge.Proofs.Json.Number
import TokenBridge.Proofs.Json.Quoted

namespace TokenBridge.Json

inductive Token.Written : Token → List Char → Prop
  | openArray : Written .openArray ['[']
  | closeArray : Written .closeArray [']']
  | openObject : Written .openObject ['\x7b']
  | closeObject : Written .closeObject ['\x7d']
  | colon : Written .colon [':']
  | comma : Written .comma [',']
  | null : Written .null ['n', 'u', 'l', 'l']
  | yes : Written (.bool true) ['t', 'r', 'u', 'e']
  | no : Written (.bool false) ['f', 'a', 'l', 's', 'e']
  | number {s : List Char} : Magnitude s → Written (.number s) s
  | negative {s : List Char} : Magnitude s → Written (.number ('-' :: s)) ('-' :: s)
  | string {pieces : List Piece} {body : List Char} {text : Option String} :
      Body pieces body → (∀ t : String, text = some t ↔ Joined pieces t.toList) →
        Written (.string text) ('"' :: (body ++ ['"']))

def Token.isNumber : Token → Bool
  | .number _ => true
  | _ => false

/-- Some tokens as a text has them one after the other. -/
inductive Lexed : List Token → List Char → Prop
  | nil : Lexed [] []
  | space {c : Char} {ts : List Token} {s : List Char} : isSpace c → Lexed ts s → Lexed ts (c :: s)
  | token {t : Token} {ts : List Token} {w s : List Char} :
      t.Written w → Lexed ts s → Lexed (t :: ts) (w ++ s)

def Apart (ts : List Token) : Prop :=
  ts.IsChain fun t u => ¬ (t.isNumber ∧ u.isNumber)

variable {t : Token} {ts : List Token} {c : Char} {w s rest after : List Char} {pieces : List Piece}
  {text : Option String}

theorem text_eq_iff :
    text = (join pieces).map String.ofList ↔ ∀ t : String, text = some t ↔ Joined pieces t.toList := by
  simp only [← join_eq_some_iff]
  cases join pieces with
  | none => simp [Option.eq_none_iff_forall_ne_some]
  | some chars =>
    refine ⟨?_, fun h => (h (String.ofList chars)).2 (by simp)⟩
    rintro rfl t
    simp [← String.toList_inj]

theorem isSpace_of_isDigit (hc : c.isDigit) : isSpace c = false := by
  simp only [isSpace, Bool.or_eq_false_iff, decide_eq_false_iff_not]
  refine ⟨⟨⟨?_, ?_⟩, ?_⟩, ?_⟩ <;> rintro rfl <;> cases hc

theorem readToken_of_isDigit (hc : c.isDigit) :
    readToken c rest = (readNumber (c :: rest)).map fun r => (.number r.1, r.2) := by
  unfold readToken
  split <;> first | rfl | cases hc

theorem readWord_append (word rest : List Char) : readWord word (word ++ rest) = some rest := by
  simp [readWord]

theorem of_readWord {word : List Char} (h : readWord word s = some after) : s = word ++ after := by
  unfold readWord at h
  split at h
  · next hw =>
    cases h
    obtain ⟨tail, rfl⟩ := List.isPrefixOf_iff_prefix.1 hw
    simp
  · cases h

theorem Token.Written.readToken (h : t.Written w) (hends : t.isNumber → Ends rest) :
    ∃ c w', w = c :: w' ∧ isSpace c = false ∧ readToken c (w' ++ rest) = some (t, rest) := by
  cases h with
  | null => exact ⟨_, _, rfl, rfl, congrArg (Option.map (Token.null, ·)) (readWord_append ['u', 'l', 'l'] rest)⟩
  | yes => exact ⟨_, _, rfl, rfl, congrArg (Option.map (Token.bool true, ·)) (readWord_append ['r', 'u', 'e'] rest)⟩
  | no =>
    exact ⟨_, _, rfl, rfl, congrArg (Option.map (Token.bool false, ·)) (readWord_append ['a', 'l', 's', 'e'] rest)⟩
  | number hw =>
    obtain ⟨c, s, rfl, hc⟩ := hw.exists_digit
    have hread := hw.readNumber (hends rfl)
    refine ⟨c, s, rfl, isSpace_of_isDigit hc, ?_⟩
    rw [readToken_of_isDigit hc, ← List.cons_append, hread]
    rfl
  | negative hw =>
    refine ⟨_, _, rfl, rfl, ?_⟩
    rw [Json.readToken, hw.readNumber (hends rfl)]
    rfl
  | string hbody htext =>
    refine ⟨_, _, rfl, rfl, ?_⟩
    rw [List.append_assoc, List.singleton_append, Json.readToken, hbody.readString, text_eq_iff.2 htext]
    rfl
  | _ => exact ⟨_, _, rfl, rfl, rfl⟩

theorem of_readToken (h : readToken c rest = some (t, after)) : ∃ w, t.Written w ∧ c :: rest = w ++ after := by
  unfold readToken at h
  split at h
  case h_10 =>
    obtain ⟨⟨pieces, after'⟩, hread, he⟩ := Option.map_eq_some_iff.1 h
    cases he
    obtain ⟨body, hbody, rfl⟩ := body_of_readString hread
    exact ⟨_, .string hbody (text_eq_iff.1 rfl), by simp⟩
  case h_11 =>
    obtain ⟨⟨literal, after'⟩, hread, he⟩ := Option.map_eq_some_iff.1 h
    cases he
    obtain ⟨hliteral, rfl⟩ := of_readNumber hread
    exact ⟨_, .negative hliteral, rfl⟩
  case h_12 =>
    obtain ⟨⟨literal, after'⟩, hread, he⟩ := Option.map_eq_some_iff.1 h
    cases he
    obtain ⟨hliteral, hrest⟩ := of_readNumber hread
    exact ⟨_, .number hliteral, hrest⟩
  case h_7 =>
    obtain ⟨after', hread, he⟩ := Option.map_eq_some_iff.1 h
    cases he
    exact ⟨_, .null, by rw [of_readWord hread]; rfl⟩
  case h_8 =>
    obtain ⟨after', hread, he⟩ := Option.map_eq_some_iff.1 h
    cases he
    exact ⟨_, .yes, by rw [of_readWord hread]; rfl⟩
  case h_9 =>
    obtain ⟨after', hread, he⟩ := Option.map_eq_some_iff.1 h
    cases he
    exact ⟨_, .no, by rw [of_readWord hread]; rfl⟩
  all_goals
    cases h
    exact ⟨_, by constructor, rfl⟩

theorem tokens_of_isSpace (hc : isSpace c) : tokens (c :: s) = tokens s := by
  rw [tokens, if_pos hc]

theorem tokens_of_readToken (hc : isSpace c = false) (h : readToken c s = some (t, after)) :
    tokens (c :: s) = (tokens after).map (t :: ·) := by
  rw [tokens, if_neg (by simp [hc])]
  split
  · next hnone =>
    rw [h] at hnone
    cases hnone
  · next hsome =>
    rw [h] at hsome
    cases hsome
    rfl

theorem lexed_of_tokens (h : tokens s = some ts) : Lexed ts s := by
  fun_induction tokens s generalizing ts with
  | case1 =>
    cases h
    exact .nil
  | case2 c s hc ih => exact .space hc (ih h)
  | case3 => cases h
  | case4 c s _ t after hread ih =>
    obtain ⟨ts, hts, rfl⟩ := Option.map_eq_some_iff.1 h
    obtain ⟨w, hw, hs⟩ := of_readToken hread
    rw [hs]
    exact .token hw (ih hts)

theorem Token.Written.ends (h : t.Written w) (ht : t.isNumber = false) (s : List Char) : Ends (w ++ s) := by
  cases h with
  | number => cases ht
  | negative => cases ht
  | _ =>
    rintro c hc
    cases hc
    decide

theorem Lexed.ends (h : Lexed ts s) (hts : ∀ t ∈ ts.head?, t.isNumber = false) : Ends s := by
  cases h with
  | nil =>
    rintro c hc
    cases hc
  | space hc _ =>
    simp only [isSpace, Bool.or_eq_true, decide_eq_true_eq] at hc
    rintro d hd
    cases hd
    rcases hc with ((rfl | rfl) | rfl) | rfl <;> decide
  | token hw _ => exact hw.ends (hts _ rfl) _

theorem Lexed.tokens_eq (h : Lexed ts s) (hapart : Apart ts) : tokens s = some ts := by
  induction h with
  | nil => rw [tokens]
  | space hc _ ih => rw [tokens_of_isSpace hc, ih hapart]
  | @token t ts w s hw hs ih =>
    obtain ⟨hfirst, hrest⟩ := List.isChain_cons.1 hapart
    have hends : t.isNumber → Ends s := fun ht =>
      hs.ends fun u hu => Bool.eq_false_iff.2 fun hnumber => hfirst u hu ⟨ht, hnumber⟩
    obtain ⟨c, w', rfl, hc, hread⟩ := hw.readToken hends
    rw [List.cons_append, tokens_of_readToken hc hread, ih hrest]
    rfl

theorem tokens_eq_some_iff (hapart : Apart ts) : tokens s = some ts ↔ Lexed ts s :=
  ⟨lexed_of_tokens, fun h => h.tokens_eq hapart⟩

end TokenBridge.Json
