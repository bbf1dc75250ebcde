import TokenBridge.Evm.Artifact
import TokenBridge.Evm.Node

namespace TokenBridge

structure Deployment where
  address : Address
  transaction : Hash
  deployer : Address
  deployerBalance : Word
  deriving DecidableEq, Repr

namespace Deployment

open Node (Attempt ask decided plainly trying)

def create (node : Url) (chain : Nat) (deployer : Address) (bytecode : Bytes) : Attempt Deployment := do
  Node.requireChain node chain
  let deployerBalance ← ask node plainly (.balance deployer)
  let hash ← Node.send node (trying "Failed to send deployment") ⟨deployer, none, bytecode⟩
  let receipt ← ask node (trying "Failed to get deployment receipt") (.receipt hash)
  if !receipt.succeeded then throw (.reverted receipt.transaction.text)
  else
    match receipt.created with
    | some address => return ⟨address, receipt.transaction, deployer, deployerBalance⟩
    | none => throw (.contractCall "Deployment receipt has no contract address")

def deploy (rpc : String) (chain : Nat) (key : String) (bytecode : Bytes) : Attempt Deployment := do
  let node ← decided (Node.readUrl rpc)
  let key ← decided (Node.readKey key)
  create node chain key.account bytecode

end Deployment
end TokenBridge
