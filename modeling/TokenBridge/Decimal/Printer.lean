import TokenBridge.Decimal.Basic
import TokenBridge.Numeral

namespace TokenBridge.Decimal

def maxLeadingZeros : Int := 5

def maxTrailingZeros : Int := 15

def scientific (digits : List Char) (scale : Int) : List Char :=
  let exponent := (digits.length : Int) - 1 - scale
  let mantissa :=
    match digits with
    | d :: rest@(_ :: _) => d :: '.' :: rest
    | ds => ds
  mantissa ++ 'E' :: (toString exponent).toList

def plain (digits : List Char) (scale : Int) : List Char :=
  if scale ≤ 0 then digits ++ List.replicate (-scale).toNat '0'
  else
    let places := scale.toNat
    if places < digits.length then
      digits.take (digits.length - places) ++ '.' :: digits.drop (digits.length - places)
    else '0' :: '.' :: List.replicate (places - digits.length) '0' ++ digits

def textOf (digits : List Char) (scale : Int) : List Char :=
  if scale - digits.length > maxLeadingZeros then scientific digits scale
  else if -scale > maxTrailingZeros then
    digits ++ 'e' :: '+' :: Numeral.digits (-scale).toNat
  else plain digits scale

def text (d : Decimal) : String :=
  let scale := if d.digits = 0 then 0 else d.scale
  let body := textOf (Numeral.digits d.digits.natAbs) scale
  String.ofList (if d.digits < 0 then '-' :: body else body)

end TokenBridge.Decimal
