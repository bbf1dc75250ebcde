import TokenBridge.Text.Utf8

namespace TokenBridge.Base64

def symbol (n : Nat) : Char :=
  if n < 26 then Char.ofNat (65 + n)
  else if n < 52 then Char.ofNat (71 + n)
  else if n < 62 then Char.ofNat (n - 4)
  else if n = 62 then '+'
  else '/'

def value? (b : UInt8) : Option Nat :=
  let n := b.toNat
  if 65 ≤ n ∧ n ≤ 90 then some (n - 65)
  else if 97 ≤ n ∧ n ≤ 122 then some (n - 71)
  else if 48 ≤ n ∧ n ≤ 57 then some (n + 4)
  else if n = 43 then some 62
  else if n = 47 then some 63
  else none

def pad : UInt8 := 61

def encode : Bytes → List Char
  | [] => []
  | [a] => [symbol (a.toNat / 4), symbol (a.toNat % 4 * 16), '=', '=']
  | [a, b] =>
    [symbol (a.toNat / 4), symbol (a.toNat % 4 * 16 + b.toNat / 16), symbol (b.toNat % 16 * 4), '=']
  | a :: b :: c :: rest =>
    symbol (a.toNat / 4) :: symbol (a.toNat % 4 * 16 + b.toNat / 16) ::
      symbol (b.toNat % 16 * 4 + c.toNat / 64) :: symbol (c.toNat % 64) :: encode rest

inductive Fault
  | badSymbol (byte : UInt8) (offset : Nat)
  | badLength (length : Nat)
  | badPadding
  | badLastSymbol (byte : UInt8) (offset : Nat)
  deriving DecidableEq, Repr

def Fault.message : Fault → String
  | .badSymbol byte offset =>
      "Invalid symbol " ++ toString byte.toNat ++ ", offset " ++ toString offset ++ "."
  | .badLength length => "Invalid input length: " ++ toString length
  | .badPadding => "Invalid padding"
  | .badLastSymbol byte offset =>
      "Invalid last symbol " ++ toString byte.toNat ++ ", offset " ++ toString offset ++ "."

def readSymbols (offset : Nat) : Bytes → Except Fault (List Nat)
  | [] => .ok []
  | b :: rest =>
    match value? b with
    | none => .error (.badSymbol b offset)
    | some n =>
      match readSymbols (offset + 1) rest with
      | .ok ns => .ok (n :: ns)
      | .error e => .error e

def readLast (offset : Nat) (quad : Bytes) : Except Fault (List Nat) :=
  let body := quad.takeWhile (· ≠ pad)
  let padding := quad.dropWhile (· ≠ pad)
  match readSymbols offset body with
  | .error e => .error e
  | .ok symbols =>
    if padding ≠ [] ∧ (body.length < 2 ∨ padding.any (· ≠ pad)) then
      .error (.badSymbol pad (offset + body.length))
    else .ok symbols

def bytesOf : List Nat → Bytes
  | [a, b] => [UInt8.ofNat (a * 4 + b / 16)]
  | [a, b, c] => [UInt8.ofNat (a * 4 + b / 16), UInt8.ofNat (b % 16 * 16 + c / 4)]
  | [a, b, c, d] =>
    [UInt8.ofNat (a * 4 + b / 16), UInt8.ofNat (b % 16 * 16 + c / 4), UInt8.ofNat (c % 4 * 64 + d)]
  | _ => []

def spareBits : List Nat → Nat
  | [_, b] => b % 16
  | [_, _, c] => c % 4
  | _ => 0

def decodeLast (offset : Nat) (quad : Bytes) : Except Fault Bytes := do
  let symbols ← readLast offset quad
  if symbols.length < 2 then .error (.badLength (offset + symbols.length))
  else if quad.length ≠ 4 then .error .badPadding
  else if spareBits symbols ≠ 0 then
    let last := symbols.length - 1
    .error (.badLastSymbol (quad.getD last 0) (offset + last))
  else .ok (bytesOf symbols)

def decodeFrom (offset : Nat) : Bytes → Except Fault Bytes
  | a :: b :: c :: d :: e :: rest => do
    let symbols ← readSymbols offset [a, b, c, d]
    let more ← decodeFrom (offset + 4) (e :: rest)
    return bytesOf symbols ++ more
  | [] => .ok []
  | quad => decodeLast offset quad

def strayEnd? (text : Bytes) : Option Fault :=
  match text.getLast? with
  | some b =>
    if text.length % 4 = 1 ∧ b ≠ pad ∧ value? b = none then some (.badSymbol b (text.length - 1))
    else none
  | none => none

def decode (text : Bytes) : Except Fault Bytes :=
  match strayEnd? text with
  | some fault => .error fault
  | none => decodeFrom 0 text

end TokenBridge.Base64
