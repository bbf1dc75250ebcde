import TokenBridge.Hex
import TokenBridge.Evm.Keccak

namespace TokenBridge

structure Address where
  bytes : Bytes
  length_bytes : bytes.length = 20
  deriving DecidableEq, Repr

namespace Address

def size : Nat := 20

def ofBytes? (bytes : Bytes) : Option Address :=
  if h : bytes.length = 20 then some ⟨bytes, h⟩ else none

def zero : Address :=
  ⟨List.replicate 20 0, rfl⟩

def read (s : String) : Except Hex.Fault Address :=
  match h : Hex.readExactly 20 s with
  | .ok bytes => .ok ⟨bytes, Hex.length_of_readExactly h⟩
  | .error e => .error e

def lower (a : Address) : String :=
  Hex.marked a.bytes

def checksumCase (digits : List Char) : List Char :=
  let marks := Hex.encode (keccak256 (Text.utf8 digits))
  List.zipWith (fun c m => if '8' ≤ m then c.toUpper else c) digits marks

def checksummed (a : Address) : String :=
  String.ofList ('0' :: 'x' :: checksumCase (Hex.encode a.bytes))

def short (a : Address) : String :=
  let text := a.checksummed.toList
  String.ofList (text.take 6 ++ "...".toList ++ text.drop (text.length - 4))

@[simp] theorem ofBytes?_bytes (a : Address) : ofBytes? a.bytes = some a := by
  simp [ofBytes?, a.length_bytes]

end Address

structure Hash where
  bytes : Bytes
  length_bytes : bytes.length = 32
  deriving DecidableEq, Repr

namespace Hash

def ofBytes? (bytes : Bytes) : Option Hash :=
  if h : bytes.length = 32 then some ⟨bytes, h⟩ else none

def repeated (b : UInt8) : Hash :=
  ⟨List.replicate 32 b, rfl⟩

def read (s : String) : Except Hex.Fault Hash :=
  match h : Hex.readExactly 32 s with
  | .ok bytes => .ok ⟨bytes, Hex.length_of_readExactly h⟩
  | .error e => .error e

def text (h : Hash) : String :=
  Hex.marked h.bytes

end Hash
end TokenBridge
