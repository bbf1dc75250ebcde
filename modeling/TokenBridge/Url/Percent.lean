import TokenBridge.Hex

namespace TokenBridge.Url

def upperDigit (n : Nat) : Char :=
  (Nat.digitChar n).toUpper

def percent (b : UInt8) : List Char :=
  ['%', upperDigit (b.toNat / 16), upperDigit (b.toNat % 16)]

def encodeByte (plain : UInt8 → Bool) (b : UInt8) : List Char :=
  if plain b then [Char.ofNat b.toNat] else percent b

def percentEncode (plain : UInt8 → Bool) (s : List Char) : List Char :=
  (Text.utf8 s).flatMap (encodeByte plain)

def percentDecode : Bytes → Bytes
  | b :: h :: l :: rest =>
    if b = 37 then
      match Hex.value? h, Hex.value? l with
      | some high, some low => UInt8.ofNat (16 * high + low) :: percentDecode rest
      | _, _ => b :: percentDecode (h :: l :: rest)
    else b :: percentDecode (h :: l :: rest)
  | bytes => bytes

def isAsciiAlphanumeric (b : UInt8) : Bool :=
  (48 ≤ b && b ≤ 57) || (65 ≤ b && b ≤ 90) || (97 ≤ b && b ≤ 122)

def isFormPlain (b : UInt8) : Bool :=
  isAsciiAlphanumeric b || b = 42 || b = 45 || b = 46 || b = 95

def formByte (b : UInt8) : List Char :=
  if b = 32 then ['+'] else encodeByte isFormPlain b

def formEncode (s : List Char) : List Char :=
  (Text.utf8 s).flatMap formByte

def formDecode (s : Bytes) : Bytes :=
  percentDecode (s.map fun b => if b = 43 then 32 else b)

end TokenBridge.Url
