import TokenBridge.Numeral

namespace TokenBridge

/-- The number `digits * 10 ^ (-scale)`. -/
structure Decimal where
  digits : Int
  scale : Int
  deriving DecidableEq, Repr

namespace Decimal

open Numeral (powerOfTen)

def trailingZeros (n : Nat) : Nat :=
  if n ≠ 0 ∧ n % 10 = 0 then trailingZeros (n / 10) + 1 else 0
termination_by n

def digitCount (n : Nat) : Nat :=
  (Numeral.digits n).length

/-- The form without zeros at the end. The scale is an exact integer and may lie below those of 64 bits, if it was
close to the least of them. -/
def normalized (d : Decimal) : Decimal :=
  if d.digits = 0 then ⟨0, 0⟩
  else
    let zeros := trailingZeros d.digits.natAbs
    ⟨d.digits / powerOfTen zeros, d.scale - zeros⟩

def lt (a b : Decimal) : Bool :=
  a.digits * powerOfTen (b.scale - a.scale).toNat < b.digits * powerOfTen (a.scale - b.scale).toNat

def isInteger (d : Decimal) : Bool :=
  d.scale ≤ 0 || d.digits % powerOfTen d.scale.toNat = 0

def truncated (d : Decimal) : Int :=
  if d.scale ≤ 0 then d.digits * powerOfTen (-d.scale).toNat
  else d.digits.tdiv (powerOfTen d.scale.toNat)

/-- The number moved by some places. The scale is an exact integer and may lie below those of 64 bits, if it was
close to the least of them. -/
def shifted (d : Decimal) (places : Nat) : Decimal :=
  ⟨d.digits, d.scale - places⟩

end Decimal
end TokenBridge
