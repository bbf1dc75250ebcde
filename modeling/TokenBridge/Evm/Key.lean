import TokenBridge.Evm.Address
import TokenBridge.Evm.Curve
import TokenBridge.Evm.Word

namespace TokenBridge

structure Key where
  number : Nat
  pos : 0 < number
  lt_order : number < Curve.order
  deriving DecidableEq

namespace Key

inductive Fault
  | notHex (fault : Hex.Fault)
  | outOfRange
  deriving DecidableEq, Repr

def Fault.message : Fault → String
  | .notHex fault => fault.message
  | .outOfRange => "signature error"

def read (s : String) : Except Fault Key :=
  match Hex.readExactly 32 s with
  | .error fault => .error (.notHex fault)
  | .ok bytes =>
    let n := ofBigEndian bytes
    if h : 0 < n ∧ n < Curve.order then .ok ⟨n, h.1, h.2⟩ else .error .outOfRange

def publicBytes (k : Key) : Bytes :=
  let (x, y) := Curve.affine (Curve.times k.number Curve.generator)
  bigEndian 32 x ++ bigEndian 32 y

def account (k : Key) : Address :=
  (Address.ofBytes? ((keccak256 k.publicBytes).drop 12)).getD Address.zero

end Key
end TokenBridge
