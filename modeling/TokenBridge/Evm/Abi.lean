import TokenBridge.Evm.Address
import TokenBridge.Evm.Word

namespace TokenBridge.Abi

inductive Kind
  | word
  | byte
  | address
  | text
  deriving DecidableEq, Repr

abbrev Kind.Val : Kind → Type
  | .word => Word
  | .byte => UInt8
  | .address => Address
  | .text => String

abbrev Row : List Kind → Type
  | [] => Unit
  | k :: ks => k.Val × Row ks

def wordSize : Nat := 32

def padded (bytes : Bytes) : Bytes :=
  bytes ++ List.replicate ((wordSize - bytes.length % wordSize) % wordSize) 0

def tail : (k : Kind) → k.Val → Bytes
  | .text, s =>
    let bytes := Text.utf8 s.toList
    bigEndian wordSize bytes.length ++ padded bytes
  | _, _ => []

def head (place : Nat) : (k : Kind) → k.Val → Bytes
  | .word, w => w.bytes
  | .byte, b => bigEndian wordSize b.toNat
  | .address, a => List.replicate (wordSize - Address.size) 0 ++ a.bytes
  | .text, _ => bigEndian wordSize place

def heads (place : Nat) : (ks : List Kind) → Row ks → Bytes
  | [], _ => []
  | k :: ks, (v, row) => head place k v ++ heads (place + (tail k v).length) ks row

def tails : (ks : List Kind) → Row ks → Bytes
  | [], _ => []
  | k :: ks, (v, row) => tail k v ++ tails ks row

def encode (ks : List Kind) (row : Row ks) : Bytes :=
  heads (wordSize * ks.length) ks row ++ tails ks row

def wordAt? (bytes : Bytes) : Option Bytes :=
  if wordSize ≤ bytes.length then some (bytes.take wordSize) else none

def size (word : Bytes) : Nat :=
  ofBigEndian (word.drop (wordSize - 8))

def textAt? (data : Bytes) (place : Nat) : Option String := do
  if data.length < place then none
  else
    let length := size (← wordAt? (data.drop place))
    let rest := data.drop (place + wordSize)
    if rest.length < length then none
    else some (String.ofList (Text.ofUtf8Lossy (rest.take length)))

def value? (data : Bytes) (head : Bytes) : (k : Kind) → Option k.Val
  | .word => Word.ofBytes? head
  | .byte => head.getLast?
  | .address => Address.ofBytes? (head.drop (wordSize - Address.size))
  | .text => textAt? data (size head)

def row? (data : Bytes) : Bytes → (ks : List Kind) → Option (Row ks)
  | _, [] => some ()
  | rest, k :: ks => do
    let head ← wordAt? rest
    let v ← value? data head k
    let row ← row? data (rest.drop wordSize) ks
    return (v, row)

def decodeLoosely (ks : List Kind) (data : Bytes) : Option (Row ks) :=
  row? data data ks

def decode (ks : List Kind) (data : Bytes) : Option (Row ks) := do
  let row ← decodeLoosely ks data
  if encode ks row = data then some row else none

end TokenBridge.Abi
