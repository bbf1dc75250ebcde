import TokenBridge.Hex
import TokenBridge.Numeral
import TokenBridge.Url.Basic

namespace TokenBridge.Url

def isDigit (c : Char) : Bool :=
  '0' ≤ c && c ≤ '9'

def digitValue? (base : Nat) (c : Char) : Option Nat := do
  let b := UInt8.ofNat c.toNat
  let n ← if c.toNat < 128 then Hex.value? b else none
  if n < base then some n else none

def valueOf? (base : Nat) (s : List Char) : Option Nat :=
  s.foldlM (fun n c => (digitValue? base c).map (base * n + ·)) 0

def ipv4Number? : List Char → Option Nat
  | [] => none
  | '0' :: 'x' :: rest => valueOf? 16 rest
  | '0' :: 'X' :: rest => valueOf? 16 rest
  | '0' :: rest => valueOf? 8 rest
  | s => valueOf? 10 s

def dotted (s : List Char) : List (List Char) :=
  match (splitAt (· = '.') s).reverse with
  | [] :: rest@(_ :: _) => rest.reverse
  | parts => parts.reverse

def endsInNumber (s : List Char) : Bool :=
  match (dotted s).getLast? with
  | some last => (!last.isEmpty && last.all isDigit) || (ipv4Number? last).isSome
  | none => false

def joinIpv4? (numbers : List Nat) : Option Nat :=
  match numbers.reverse with
  | [] => none
  | last :: front =>
    let unit := Nat.pow 256 (4 - front.length)
    if 4 < numbers.length ∨ front.any (255 < ·) ∨ unit ≤ last then none
    else some (last + (front.reverse.foldl (fun n b => 256 * n + b) 0) * unit)

def ipv4? (s : List Char) : Option Nat := do
  joinIpv4? (← (dotted s).mapM ipv4Number?)

def group? (s : List Char) : Option Nat :=
  if s.isEmpty ∨ 4 < s.length then none else valueOf? 16 s

def byte? : List Char → Option Nat
  | [] => none
  | '0' :: _ :: _ => none
  | s => do
    let n ← valueOf? 10 s
    if n < 256 then some n else none

def embedded? (s : List Char) : Option (List Nat) := do
  match ← (splitAt (· = '.') s).mapM byte? with
  | [a, b, c, d] => some [256 * a + b, 256 * c + d]
  | _ => none

def groups? (mayEmbed : Bool) : List (List Char) → Option (List Nat)
  | [] => some []
  | [last] =>
    match group? last with
    | some n => some [n]
    | none => if mayEmbed then embedded? last else none
  | g :: rest => do
    let n ← group? g
    return n :: (← groups? mayEmbed rest)

def groupsOf? (mayEmbed : Bool) (s : List Char) : Option (List Nat) :=
  if s.isEmpty then some [] else groups? mayEmbed (splitAt (· = ':') s)

def splitGap : List Char → Option (List Char × List Char)
  | ':' :: ':' :: rest => some ([], rest)
  | c :: rest => (splitGap rest).map fun r => (c :: r.1, r.2)
  | [] => none

def ipv6? (s : List Char) : Option (List Nat) :=
  match splitGap s with
  | none => do
    let groups ← groups? true (splitAt (· = ':') s)
    if groups.length = 8 then some groups else none
  | some (front, back) => do
    let front ← groupsOf? false front
    let back ← groupsOf? true back
    if front.length + back.length < 8 then
      some (front ++ List.replicate (8 - front.length - back.length) 0 ++ back)
    else none

def ipv4Text (n : Nat) : List Char :=
  Numeral.digits (n / 256 / 256 / 256) ++ '.' :: Numeral.digits (n / 256 / 256 % 256) ++
    '.' :: Numeral.digits (n / 256 % 256) ++ '.' :: Numeral.digits (n % 256)

def leadingZeros (groups : List Nat) : Nat :=
  (groups.takeWhile (· = 0)).length

def longestZeros : Nat → List Nat → Nat × Nat
  | at_, [] => (at_, 0)
  | at_, g :: rest =>
    let here := leadingZeros (g :: rest)
    let later := longestZeros (at_ + 1) rest
    if later.2 ≤ here then (at_, here) else later

def groupsText : List Nat → List Char
  | [] => []
  | [g] => Nat.toDigits 16 g
  | g :: rest => Nat.toDigits 16 g ++ ':' :: groupsText rest

def ipv6Text (groups : List Nat) : List Char :=
  let (start, length) := longestZeros 0 groups
  if length < 2 then groupsText groups
  else groupsText (groups.take start) ++ ':' :: ':' :: groupsText (groups.drop (start + length))

end TokenBridge.Url
