import TokenBridge.Json.Basic
import TokenBridge.Numeral
import TokenBridge.Rounding

namespace TokenBridge.Json

def maxInnerDepth : Nat := 126

mutual

def hasTexts : Json → Bool
  | .string text => text.isSome
  | .array items => itemsHaveTexts items
  | .object members => membersHaveTexts members
  | _ => true

def itemsHaveTexts : List Json → Bool
  | [] => true
  | v :: rest => v.hasTexts && itemsHaveTexts rest

def membersHaveTexts : List Member → Bool
  | [] => true
  | (k, v) :: rest => k.isSome && v.hasTexts && membersHaveTexts rest

end

def leadingDigits (n : Nat) : List Char → Nat × Nat
  | [] => (n, 0)
  | c :: rest =>
    let m := 10 * n + (c.toNat - 48)
    if Numeral.maxWord64 < m then (n, rest.length + 1) else leadingDigits m rest

def digitsValue (s : List Char) : Nat :=
  s.foldl (fun n c => 10 * n + (c.toNat - 48)) 0

def exponentValue : List Char → Int
  | '-' :: rest => -(digitsValue rest : Int)
  | '+' :: rest => digitsValue rest
  | s => digitsValue s

def isMark (c : Char) : Bool :=
  c = 'e' || c = 'E'

/-- A literal as an integer of at most 64 bits times a power of ten. Digits that do not fit are left out, before
the point and behind it. Lengths and exponents are exact integers, which 32 bits hold for literals of less than
`2 ^ 31` characters. -/
def scaled (literal : List Char) : Nat × Int :=
  let literal := if literal.head? = some '-' then literal.drop 1 else literal
  let mantissa := literal.takeWhile (!isMark ·)
  let exponent := exponentValue ((literal.dropWhile (!isMark ·)).drop 1)
  let fraction := (mantissa.dropWhile (· ≠ '.')).drop 1
  let (whole, dropped) := leadingDigits 0 (mantissa.takeWhile (· ≠ '.'))
  let (n, more) := leadingDigits whole fraction
  (n, exponent + dropped - ((fraction.length - more : Nat) : Int))

def maxExponent : Int := 308

/-- The integer is rounded to a double-precision float, and so is the power of ten; what has to stay finite is
their product. -/
def numberFits (literal : List Char) : Bool :=
  let (n, exponent) := scaled literal
  n = 0 || (exponent ≤ maxExponent &&
    Rounding.nearest n * Rounding.nearest (Numeral.powerOfTen exponent.toNat) < Rounding.infinity)

mutual

def numbersFit : Json → Bool
  | .number literal => numberFits literal
  | .array items => itemNumbersFit items
  | .object members => memberNumbersFit members
  | _ => true

def itemNumbersFit : List Json → Bool
  | [] => true
  | v :: rest => v.numbersFit && itemNumbersFit rest

def memberNumbersFit : List Member → Bool
  | [] => true
  | (_, v) :: rest => v.numbersFit && memberNumbersFit rest

end

def isBounded (v : Json) : Bool :=
  v.hasTexts && v.numbersFit && v.depth ≤ maxInnerDepth

end TokenBridge.Json
