import TokenBridge.Evm.Abi
import TokenBridge.Json.Writer

namespace TokenBridge.Contract

open Abi (Kind)

def selector (signature : String) : Bytes :=
  (keccak256 (Text.utf8 signature.toList)).take 4

inductive Call
  | withdraw (amount : Word) (destination network : String)
  | balanceOf (account : Address)
  | decimals
  | symbol
  deriving DecidableEq, Repr

def withdrawSelector : Bytes := selector "withdraw(uint256,string,string)"

def balanceOfSelector : Bytes := selector "balanceOf(address)"

def decimalsSelector : Bytes := selector "decimals()"

def symbolSelector : Bytes := selector "symbol()"

namespace Call

def data : Call → Bytes
  | .withdraw amount destination network =>
    withdrawSelector ++ Abi.encode [.word, .text, .text] (amount, destination, network, ())
  | .balanceOf account => balanceOfSelector ++ Abi.encode [.address] (account, ())
  | .decimals => decimalsSelector
  | .symbol => symbolSelector

def arguments (strict : Bool) (ks : List Kind) (data : Bytes) : Option (Abi.Row ks) :=
  if strict then Abi.decode ks data else Abi.decodeLoosely ks data

def decode (strict : Bool) (data : Bytes) : Option Call := do
  if data.length < 4 then none
  else
    let name := data.take 4
    let rest := data.drop 4
    if name = withdrawSelector then
      let (amount, destination, network, _) ← arguments strict [.word, .text, .text] rest
      return .withdraw amount destination network
    else if name = balanceOfSelector then
      let (account, _) ← arguments strict [.address] rest
      return .balanceOf account
    else if name = decimalsSelector then
      let _ ← arguments strict [] rest
      return .decimals
    else if name = symbolSelector then
      let _ ← arguments strict [] rest
      return .symbol
    else none

end Call

structure Log where
  topics : List Bytes
  data : Bytes
  deriving DecidableEq, Repr

structure Withdrawn where
  receiver : Address
  tokens : Word
  destination : String
  network : String
  deriving DecidableEq, Repr

namespace Withdrawn

def signature : String := "Withdraw(address,uint256,string,string)"

def topic : Bytes := keccak256 (Text.utf8 signature.toList)

def log (e : Withdrawn) : Log :=
  { topics := [topic, Abi.encode [.address] (e.receiver, ())]
    data := Abi.encode [.word, .text, .text] (e.tokens, e.destination, e.network, ()) }

def ofLog? (l : Log) : Option Withdrawn :=
  match l.topics with
  | first :: second :: _ => do
    if first = topic then
      let (receiver, _) ← Abi.decodeLoosely [.address] second
      let (tokens, destination, network, _) ← Abi.decodeLoosely [.word, .text, .text] l.data
      return ⟨receiver, tokens, destination, network⟩
    else none
  | _ => none

def ofLogs (logs : List Log) : List Withdrawn :=
  logs.filterMap ofLog?

def quantity (n : Nat) : String :=
  String.ofList ('0' :: 'x' :: Nat.toDigits 16 n)

def toJson (e : Withdrawn) : Json :=
  .record
    [("receiver", .text e.receiver.lower), ("tokens", .text (quantity e.tokens.val)),
     ("blockchain_address", .text e.destination), ("network", .text e.network)]

end Withdrawn
end TokenBridge.Contract
