namespace TokenBridge

abbrev Bytes := List UInt8

namespace Text

def utf8 (s : List Char) : Bytes :=
  s.flatMap String.utf8EncodeChar

def replacement : Char := '\ufffd'

structure Lead where
  following : Nat
  low : UInt8
  high : UInt8
  bits : Nat

def lead? (b : UInt8) : Option Lead :=
  if b < 0x80 then some ⟨0, 0x80, 0xBF, b.toNat⟩
  else if b < 0xC2 then none
  else if b < 0xE0 then some ⟨1, 0x80, 0xBF, b.toNat - 0xC0⟩
  else if b = 0xE0 then some ⟨2, 0xA0, 0xBF, 0⟩
  else if b = 0xED then some ⟨2, 0x80, 0x9F, 0xD⟩
  else if b < 0xF0 then some ⟨2, 0x80, 0xBF, b.toNat - 0xE0⟩
  else if b = 0xF0 then some ⟨3, 0x90, 0xBF, 0⟩
  else if b < 0xF4 then some ⟨3, 0x80, 0xBF, b.toNat - 0xF0⟩
  else if b = 0xF4 then some ⟨3, 0x80, 0x8F, 4⟩
  else none

abbrev Pending := Lead

def startByte (b : UInt8) : List (Option Char) × Option Pending :=
  match lead? b with
  | none => ([none], none)
  | some l => if l.following = 0 then ([some (Char.ofNat l.bits)], none) else ([], some l)

def takeByte (pending : Option Pending) (b : UInt8) : List (Option Char) × Option Pending :=
  match pending with
  | none => startByte b
  | some p =>
    if p.low ≤ b && b ≤ p.high then
      let bits := p.bits * 64 + (b.toNat - 0x80)
      if p.following ≤ 1 then ([some (Char.ofNat bits)], none)
      else ([], some ⟨p.following - 1, 0x80, 0xBF, bits⟩)
    else
      let next := startByte b
      (none :: next.1, next.2)

def utf8Scan (pending : Option Pending) : Bytes → List (Option Char)
  | [] => if pending.isSome then [none] else []
  | b :: rest =>
    let step := takeByte pending b
    step.1 ++ utf8Scan step.2 rest

def ofUtf8? (bytes : Bytes) : Option (List Char) :=
  (utf8Scan none bytes).mapM id

def ofUtf8Lossy (bytes : Bytes) : List Char :=
  (utf8Scan none bytes).map fun c => c.getD replacement

end Text
end TokenBridge
