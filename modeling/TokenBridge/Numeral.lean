namespace TokenBridge.Numeral

inductive Fault
  | empty
  | badDigit
  | tooLarge
  deriving DecidableEq, Repr

def Fault.message : Fault → String
  | .empty => "cannot parse integer from empty string"
  | .badDigit => "invalid digit found in string"
  | .tooLarge => "number too large to fit in target type"

def digit? (c : Char) : Option Nat :=
  if 48 ≤ c.toNat ∧ c.toNat ≤ 57 then some (c.toNat - 48) else none

def readDigits (limit : Nat) : Nat → List Char → Except Fault Nat
  | n, [] => .ok n
  | n, c :: rest =>
    match digit? c with
    | none => .error .badDigit
    | some d => if limit < 10 * n + d then .error .tooLarge else readDigits limit (10 * n + d) rest

def read (limit : Nat) : List Char → Except Fault Nat
  | [] => .error .empty
  | ['+'] => .error .badDigit
  | '+' :: rest => readDigits limit 0 rest
  | s => readDigits limit 0 s

def maxWord64 : Nat := Nat.pow 2 64 - 1

def read64 (s : String) : Except Fault Nat :=
  read maxWord64 s.toList

def powerOfTen (n : Nat) : Nat :=
  Nat.pow 10 n

def digits (n : Nat) : List Char :=
  Nat.toDigits 10 n

def value? (s : List Char) : Option Nat :=
  s.foldlM (fun n c => (digit? c).map (10 * n + ·)) 0

end TokenBridge.Numeral
