import TokenBridge.Text.Utf8
import TokenBridge.Text.Quoted

namespace TokenBridge.Hex

def digit (n : Nat) : Char :=
  Nat.digitChar n

def value? (b : UInt8) : Option Nat :=
  let n := b.toNat
  if 48 ≤ n ∧ n ≤ 57 then some (n - 48)
  else if 97 ≤ n ∧ n ≤ 102 then some (n - 87)
  else if 65 ≤ n ∧ n ≤ 70 then some (n - 55)
  else none

def pair (b : UInt8) : List Char :=
  [digit (b.toNat / 16), digit (b.toNat % 16)]

def encode (bytes : Bytes) : List Char :=
  bytes.flatMap pair

def marked (bytes : Bytes) : String :=
  String.ofList ('0' :: 'x' :: encode bytes)

def unmark : List Char → List Char
  | '0' :: 'x' :: rest => rest
  | s => s

def unmarkAnyCase : List Char → List Char
  | '0' :: 'X' :: rest => rest
  | s => unmark s

inductive Fault
  | oddLength
  | wrongLength
  | badDigit (byte : UInt8) (position : Nat)
  deriving DecidableEq, Repr

def Fault.shown (byte : UInt8) : String :=
  Text.quotedChar (Char.ofNat byte.toNat)

def Fault.message : Fault → String
  | .oddLength => "odd number of digits"
  | .wrongLength => "invalid string length"
  | .badDigit byte position =>
      "invalid character " ++ shown byte ++ " at position " ++ toString position

def decodeFrom (position : Nat) : Bytes → Except Fault Bytes
  | [] => .ok []
  | [_] => .error .oddLength
  | a :: b :: rest =>
    match value? a, value? b with
    | none, _ => .error (.badDigit a position)
    | some _, none => .error (.badDigit b (position + 1))
    | some high, some low =>
      match decodeFrom (position + 2) rest with
      | .ok bytes => .ok (UInt8.ofNat (16 * high + low) :: bytes)
      | .error e => .error e

def decode (text : Bytes) : Except Fault Bytes :=
  if text.length % 2 = 1 then .error .oddLength
  else decodeFrom 0 text

def read (s : String) : Except Fault Bytes :=
  decode (Text.utf8 (unmarkAnyCase s.toList))

def readExactly (n : Nat) (s : String) : Except Fault Bytes :=
  let text := Text.utf8 (unmarkAnyCase s.toList)
  if text.length % 2 = 1 then .error .oddLength
  else if text.length ≠ 2 * n then .error .wrongLength
  else decodeFrom 0 text

theorem length_of_decodeFrom {position : Nat} {text bytes : Bytes}
    (h : decodeFrom position text = .ok bytes) : text.length = 2 * bytes.length := by
  fun_induction decodeFrom position text generalizing bytes with
  | case1 => cases h; rfl
  | case2 => cases h
  | case3 => cases h
  | case4 => cases h
  | case5 _ _ _ _ _ _ _ _ rest' he ih =>
    cases h
    have := ih he
    simp only [List.length_cons]
    omega
  | case6 => cases h

theorem length_of_readExactly {n : Nat} {s : String} {bytes : Bytes}
    (h : readExactly n s = .ok bytes) : bytes.length = n := by
  simp only [readExactly] at h
  split at h
  · cases h
  · split at h
    · cases h
    · have := length_of_decodeFrom h
      omega

end TokenBridge.Hex
