import TokenBridge.Decimal.Reader
import TokenBridge.Decimal.Printer
import TokenBridge.Evm.Word
import TokenBridge.Text.Blank
import TokenBridge.Text.Quoted

namespace TokenBridge

inductive AmountError
  | malformed (input : String)
  | nonPositive
  | excessPrecision
  | insufficientBalance (requested available : String)
  deriving DecidableEq, Repr

namespace Amount

def decimals : Nat := 7

def maxIntegerDigits : Nat := 78

end Amount

def AmountError.message : AmountError → String
  | .malformed input => "Amount not valid: " ++ Text.quoted input ++ " is not a number"
  | .nonPositive => "Amount not valid: must be greater than zero"
  | .excessPrecision =>
      "Amount not valid: at most " ++ toString Amount.decimals ++ " decimals are supported"
  | .insufficientBalance requested available =>
      "Amount not valid: " ++ requested ++ " exceeds balance " ++ available

namespace Amount

def ofBaseUnits (raw : Word) : Decimal :=
  ⟨raw.val, decimals⟩

/-- Refuses more decimals than the token has, and more integer digits than a word can hold. Scales are exact
integers. A scale that was read fits into 64 bits, but what is computed from it may not: with an exponent at the
limit of 64 bits, as in `1e9223372036854775807`, an arithmetic of 64 bits overflows here, and what comes of that
is not described. Nothing overflows where `scales_fit` applies. -/
def checkMagnitude (amount : Decimal) : Except AmountError Unit :=
  let n := amount.normalized
  if n.digits = 0 then .ok ()
  else if n.scale > decimals then .error .excessPrecision
  else if Decimal.digitCount n.digits.natAbs - n.scale > maxIntegerDigits then
    .error (.malformed "amount out of range")
  else .ok ()

def toBaseUnits (amount : Decimal) : Except AmountError Word := do
  if amount.digits ≤ 0 then .error .nonPositive
  else
    checkMagnitude amount
    let scaled := amount.shifted decimals
    if !scaled.isInteger then .error .excessPrecision
    else
      match Word.ofNat? scaled.truncated.toNat with
      | some raw => .ok raw
      | none => .error (.malformed "the value is too large to fit the target type")

def parse (input : String) : Except AmountError Decimal :=
  let trimmed := Text.trim input
  match Decimal.ofString? trimmed with
  | none => .error (.malformed trimmed)
  | some amount => do
    checkMagnitude amount
    return amount

def dropZeros (s : List Char) : List Char :=
  (s.reverse.dropWhile (· = '0')).reverse

def balanceText (raw : Nat) : List Char :=
  let whole := Numeral.digits (raw / Numeral.powerOfTen decimals)
  let digits := Numeral.digits (raw % Numeral.powerOfTen decimals)
  let fraction := dropZeros (List.replicate (decimals - digits.length) '0' ++ digits)
  if fraction = [] then whole else whole ++ '.' :: fraction

def formatBalance (raw : Word) : String :=
  String.ofList (balanceText raw.val)

def format (amount : Decimal) : String :=
  match toBaseUnits amount with
  | .ok raw => formatBalance raw
  | .error _ => amount.text

end Amount
end TokenBridge
