namespace TokenBridge.Json

inductive Token
  | openArray
  | closeArray
  | openObject
  | closeObject
  | colon
  | comma
  | null
  | bool (value : Bool)
  | number (literal : List Char)
  | string (text : Option String)
  deriving DecidableEq, Repr

inductive Piece
  | char (c : Char)
  | unit (u : Nat)
  deriving DecidableEq, Repr

def join : List Piece → Option (List Char)
  | [] => some []
  | .char c :: rest => (join rest).map (c :: ·)
  | .unit u :: rest =>
    if u < 0xD800 ∨ 0xDFFF < u then (join rest).map (Char.ofNat u :: ·)
    else
      match rest with
      | .unit v :: rest' =>
        if u < 0xDC00 ∧ 0xDC00 ≤ v ∧ v ≤ 0xDFFF then
          (join rest').map (Char.ofNat (0x10000 + (u - 0xD800) * 0x400 + (v - 0xDC00)) :: ·)
        else none
      | _ => none

def hexDigit? (c : Char) : Option Nat :=
  let n := c.toNat
  if 48 ≤ n ∧ n ≤ 57 then some (n - 48)
  else if 97 ≤ n ∧ n ≤ 102 then some (n - 87)
  else if 65 ≤ n ∧ n ≤ 70 then some (n - 55)
  else none

def hexUnit? (a b c d : Char) : Option Nat := do
  return (((← hexDigit? a) * 16 + (← hexDigit? b)) * 16 + (← hexDigit? c)) * 16 + (← hexDigit? d)

def unescape? : Char → Option Char
  | '"' => some '"'
  | '\\' => some '\\'
  | '/' => some '/'
  | 'b' => some '\x08'
  | 'f' => some '\x0c'
  | 'n' => some '\n'
  | 'r' => some '\r'
  | 't' => some '\t'
  | _ => none

def readString : List Char → Option (List Piece × List Char)
  | [] => none
  | '"' :: rest => some ([], rest)
  | '\\' :: 'u' :: a :: b :: c :: d :: rest => do
    let u ← hexUnit? a b c d
    let (pieces, after) ← readString rest
    return (.unit u :: pieces, after)
  | '\\' :: e :: rest => do
    let c ← unescape? e
    let (pieces, after) ← readString rest
    return (.char c :: pieces, after)
  | c :: rest =>
    if c = '\\' ∨ c.toNat < 0x20 then none
    else do
      let (pieces, after) ← readString rest
      return (.char c :: pieces, after)

theorem length_of_readString {s : List Char} {pieces : List Piece} {after : List Char}
    (h : readString s = some (pieces, after)) : after.length < s.length := by
  fun_induction readString s generalizing pieces after with
  | case1 => cases h
  | case2 => cases h; simp
  | case3 a b c d rest ih =>
    simp only [bind, Option.bind_eq_some_iff] at h
    obtain ⟨_, _, ⟨_, _⟩, hr, he⟩ := h
    cases he
    have := ih hr
    simp only [List.length_cons]
    omega
  | case4 e rest _ ih =>
    simp only [bind, Option.bind_eq_some_iff] at h
    obtain ⟨_, _, ⟨_, _⟩, hr, he⟩ := h
    cases he
    have := ih hr
    simp only [List.length_cons]
    omega
  | case5 => cases h
  | case6 c rest _ _ _ _ ih =>
    simp only [bind, Option.bind_eq_some_iff] at h
    obtain ⟨⟨_, _⟩, hr, he⟩ := h
    cases he
    have := ih hr
    simp only [List.length_cons]
    omega

def splitDigits (s : List Char) : List Char × List Char :=
  (s.takeWhile Char.isDigit, s.dropWhile Char.isDigit)

def splitWhole : List Char → Option (List Char × List Char)
  | '0' :: rest => some (['0'], rest)
  | s =>
    match splitDigits s with
    | ([], _) => none
    | split => some split

def splitFraction : List Char → Option (List Char × List Char)
  | '.' :: rest =>
    match splitDigits rest with
    | ([], _) => none
    | (digits, after) => some ('.' :: digits, after)
  | s => some ([], s)

def splitSign : List Char → List Char × List Char
  | '+' :: rest => (['+'], rest)
  | '-' :: rest => (['-'], rest)
  | s => ([], s)

def splitExponent : List Char → Option (List Char × List Char)
  | [] => some ([], [])
  | c :: rest =>
    if c = 'e' ∨ c = 'E' then
      let (sign, rest) := splitSign rest
      match splitDigits rest with
      | ([], _) => none
      | (digits, after) => some (c :: sign ++ digits, after)
    else some ([], c :: rest)

def readNumber (s : List Char) : Option (List Char × List Char) := do
  let (whole, s) ← splitWhole s
  let (fraction, s) ← splitFraction s
  let (exponent, s) ← splitExponent s
  return (whole ++ fraction ++ exponent, s)

theorem length_of_splitDigits {s digits after : List Char} (h : splitDigits s = (digits, after)) :
    after.length + digits.length = s.length := by
  cases h
  have := congrArg List.length (List.takeWhile_append_dropWhile (p := Char.isDigit) (l := s))
  simp only [List.length_append] at this
  omega

theorem length_of_splitWhole {s whole after : List Char} (h : splitWhole s = some (whole, after)) :
    after.length < s.length := by
  unfold splitWhole at h
  split at h
  · cases h; simp
  · split at h
    · cases h
    · next hd =>
      have hs : splitDigits s = (whole, after) := Option.some.inj h
      have := length_of_splitDigits hs
      match whole, hs with
      | [], hs => exact absurd hs (hd after)
      | _ :: _, _ => simp only [List.length_cons] at this; omega

theorem length_of_splitFraction {s fraction after : List Char}
    (h : splitFraction s = some (fraction, after)) : after.length ≤ s.length := by
  unfold splitFraction at h
  split at h
  · split at h
    · cases h
    · next hs =>
      cases h
      have := length_of_splitDigits hs
      simp only [List.length_cons]
      omega
  · cases h; exact Nat.le_refl _

theorem length_of_splitSign (s : List Char) : (splitSign s).2.length ≤ s.length := by
  unfold splitSign
  split <;> simp

theorem length_of_splitExponent {s exponent after : List Char}
    (h : splitExponent s = some (exponent, after)) : after.length ≤ s.length := by
  unfold splitExponent at h
  split at h
  · cases h; exact Nat.le_refl _
  · next c rest =>
    split at h
    · dsimp only at h
      split at h
      · cases h
      · next hs =>
        cases h
        have := length_of_splitDigits hs
        have := length_of_splitSign rest
        simp only [List.length_cons]
        omega
    · cases h; exact Nat.le_refl _

theorem length_of_readNumber {s literal after : List Char}
    (h : readNumber s = some (literal, after)) : after.length < s.length := by
  simp only [readNumber, bind, Option.bind_eq_some_iff] at h
  obtain ⟨⟨_, _⟩, hw, ⟨_, _⟩, hf, ⟨_, _⟩, he, h⟩ := h
  cases h
  have := length_of_splitWhole hw
  have := length_of_splitFraction hf
  have := length_of_splitExponent he
  dsimp only at *
  omega

def readWord (word : List Char) (s : List Char) : Option (List Char) :=
  if word.isPrefixOf s then some (s.drop word.length) else none

def readToken (c : Char) (rest : List Char) : Option (Token × List Char) :=
  match c with
  | '[' => some (.openArray, rest)
  | ']' => some (.closeArray, rest)
  | '\x7b' => some (.openObject, rest)
  | '\x7d' => some (.closeObject, rest)
  | ':' => some (.colon, rest)
  | ',' => some (.comma, rest)
  | 'n' => (readWord "ull".toList rest).map (.null, ·)
  | 't' => (readWord "rue".toList rest).map (.bool true, ·)
  | 'f' => (readWord "alse".toList rest).map (.bool false, ·)
  | '"' => (readString rest).map fun r => (.string ((join r.1).map String.ofList), r.2)
  | '-' => (readNumber rest).map fun r => (.number ('-' :: r.1), r.2)
  | c => (readNumber (c :: rest)).map fun r => (.number r.1, r.2)

theorem length_of_readWord {word s after : List Char} (h : readWord word s = some after) :
    after.length ≤ s.length := by
  unfold readWord at h
  split at h
  · cases h; simp
  · cases h

theorem length_of_readToken {c : Char} {rest : List Char} {t : Token} {after : List Char}
    (h : readToken c rest = some (t, after)) : after.length ≤ rest.length := by
  unfold readToken at h
  split at h
  case h_11 =>
    simp only [Option.map_eq_some_iff] at h
    obtain ⟨_, hn, he⟩ := h
    cases he
    exact Nat.le_of_lt (length_of_readNumber hn)
  case h_12 =>
    simp only [Option.map_eq_some_iff] at h
    obtain ⟨_, hn, he⟩ := h
    cases he
    exact Nat.le_of_lt_succ (length_of_readNumber hn)
  case h_10 =>
    simp only [Option.map_eq_some_iff] at h
    obtain ⟨_, hn, he⟩ := h
    cases he
    exact Nat.le_of_lt (length_of_readString hn)
  all_goals
    first
    | (cases h; exact Nat.le_refl _)
    | (simp only [Option.map_eq_some_iff] at h
       obtain ⟨_, hn, he⟩ := h
       cases he
       exact length_of_readWord hn)

def isSpace (c : Char) : Bool :=
  c = ' ' || c = '\n' || c = '\t' || c = '\r'

def tokens : List Char → Option (List Token)
  | [] => some []
  | c :: rest =>
    if isSpace c then tokens rest
    else
      match _h : readToken c rest with
      | none => none
      | some (t, after) => (tokens after).map (t :: ·)
termination_by s => s.length
decreasing_by
  · simp
  · have := length_of_readToken _h
    simp only [List.length_cons]
    omega

end TokenBridge.Json
