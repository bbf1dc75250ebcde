import TokenBridge.Base64
import TokenBridge.Evm.Address

namespace TokenBridge

inductive MemoError
  | wrongDigits (count : Nat)
  | badDigit (byte : UInt8) (position : Nat)
  | notBase64 (fault : Base64.Fault)
  | wrongLength (bytes : Nat)
  deriving DecidableEq, Repr

def MemoError.message : MemoError → String
  | .wrongDigits count =>
      "invalid EVM address format: expected 40 hex chars, got " ++ toString count
  | .badDigit byte position =>
      "invalid EVM address format: Invalid character " ++ Hex.Fault.shown byte ++
        " at position " ++ toString position
  | .notBase64 fault => "memo is not valid base64: " ++ fault.message
  | .wrongLength bytes =>
      "an EVM address should be 20 bytes, memo decoded to " ++ toString bytes

structure Memo where
  text : String
  deriving DecidableEq, Repr

namespace Memo

def readAddress (s : String) : Except MemoError Address :=
  let digits := Text.utf8 (Hex.unmark s.toList)
  if digits.length ≠ 2 * Address.size then .error (.wrongDigits digits.length)
  else
    match Hex.decodeFrom 0 digits with
    | .error (.badDigit byte position) => .error (.badDigit byte position)
    | .error _ => .error (.wrongDigits digits.length)
    | .ok bytes =>
      match Address.ofBytes? bytes with
      | some a => .ok a
      | none => .error (.wrongDigits digits.length)

def ofAddress (a : Address) : Memo :=
  ⟨String.ofList (Base64.encode a.bytes)⟩

def encode (s : String) : Except MemoError Memo := do
  return ofAddress (← readAddress s)

def decode (s : String) : Except MemoError Address :=
  match Base64.decode (Text.utf8 s.toList) with
  | .error fault => .error (.notBase64 fault)
  | .ok bytes =>
    match Address.ofBytes? bytes with
    | some a => .ok a
    | none => .error (.wrongLength bytes.length)

end Memo
end TokenBridge
