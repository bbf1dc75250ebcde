import TokenBridge.Decimal.Basic
import TokenBridge.Numeral

namespace TokenBridge.Decimal

def isExponentMark (c : Char) : Bool :=
  c = 'e' || c = 'E'

def readNatural : List Char → Option Nat
  | [] => none
  | s => Numeral.value? s

def readExponent : List Char → Option Int
  | '-' :: rest => (readNatural rest).map fun n => -(n : Int)
  | '+' :: rest => (readNatural rest).map Int.ofNat
  | s => (readNatural s).map Int.ofNat

def signedBound (bits : Nat) : Int :=
  Nat.pow 2 (bits - 1)

def fitsSigned (bits : Nat) (n : Int) : Bool :=
  -signedBound bits ≤ n && n < signedBound bits

def exponentFits (e : Int) : Bool :=
  fitsSigned 128 e

def scaleFits (scale : Int) : Bool :=
  fitsSigned 64 scale

def splitExponent (s : List Char) : Option (List Char × Int) :=
  let base := s.takeWhile (!isExponentMark ·)
  match s.dropWhile (!isExponentMark ·) with
  | [] => some (base, 0)
  | _ :: rest => do
    let e ← readExponent rest
    if exponentFits e then some (base, e) else none

def splitPoint (base : List Char) : List Char × Nat :=
  let whole := base.takeWhile (· ≠ '.')
  let fraction := (base.dropWhile (· ≠ '.')).drop 1
  (whole ++ fraction, (fraction.filter (· ≠ '_')).length)

def readDigits : List Char → Option Nat
  | [] => none
  | '_' :: _ => none
  | s => Numeral.value? (s.filter (· ≠ '_'))

def readSigned : List Char → Option Int
  | '-' :: rest => (readDigits rest).map fun n => -(n : Int)
  | '+' :: rest => (readDigits rest).map Int.ofNat
  | s => (readDigits s).map Int.ofNat

def read (s : List Char) : Option Decimal := do
  let (base, exponent) ← splitExponent s
  let (digits, places) := splitPoint base
  let n ← readSigned digits
  let scale := (places : Int) - exponent
  if scaleFits scale then some ⟨n, scale⟩ else none

def ofString? (s : String) : Option Decimal :=
  read s.toList

end TokenBridge.Decimal
