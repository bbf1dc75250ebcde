import TokenBridge.Config
import TokenBridge.Evm.Node
import TokenBridge.Withdrawal.Form

namespace TokenBridge

open Contract (Call)

structure TokenInfo where
  address : Address
  symbol : String
  decimals : UInt8
  deriving DecidableEq, Repr

def TokenInfo.toJson (i : TokenInfo) : Json :=
  .record
    [("address", .text i.address.lower), ("symbol", .text i.symbol),
     ("decimals", .ofNat i.decimals.toNat)]

structure Client where
  node : Url
  token : Address
  chain : Nat
  network : String
  signer : Option Key
  deriving DecidableEq

namespace Client

open Node (Attempt ask decided plainly trying)

def connect (rpc : String) (token : Address) (chain : Nat) : Attempt Client := do
  let node ← decided (Node.readUrl rpc)
  Node.requireChain node chain
  return ⟨node, token, chain, defaultNetwork, none⟩

def withSigner (c : Client) (key : String) : Except NetworkError Client := do
  return { c with signer := some (← Node.readKey key) }

def withNetwork (c : Client) (network : String) : Client :=
  { c with network }

def signerAccount (c : Client) : Option Address :=
  c.signer.map Key.account

def view (c : Client) (what : String) (call : Call) (kind : Abi.Kind) : Attempt kind.Val := do
  let data ← ask c.node (trying what) (.call c.token call.data)
  match Abi.decode [kind] data with
  | some (v, _) => pure v
  | none => throw (.contractCall (what ++ ": ABI decoding failed"))

def balanceOf (c : Client) (account : Address) : Attempt Word :=
  c.view "Failed to get balance" (.balanceOf account) .word

/-- The two questions do not depend on each other and may be asked at once; here they are asked in one fixed order. -/
def info (c : Client) : Attempt TokenInfo := do
  let symbol ← c.view "Failed to get symbol" .symbol .text
  let decimals ← c.view "Failed to get decimals" .decimals .byte
  return ⟨c.token, symbol, decimals⟩

def nativeBalance (c : Client) : Attempt Word :=
  match c.signerAccount with
  | some account => ask c.node plainly (.balance account)
  | none => throw (.contractCall "no signer configured")

def withdraw (c : Client) (raw : Word) (destination : String) : Attempt Node.Receipt :=
  match c.signerAccount with
  | none => throw (.contractCall "withdrawals need a signer")
  | some sender => do
    let call := Call.withdraw raw destination c.network
    let hash ← Node.send c.node (trying "Failed to send withdraw") ⟨sender, some c.token, call.data⟩
    let receipt ← ask c.node (trying "Failed to get withdraw receipt") (.receipt hash)
    if receipt.succeeded then pure receipt else throw (.reverted receipt.transaction.text)

def dispatch (c : Client) (request : Withdrawal.Request) : Attempt Hash :=
  match request.rawAmount with
  | .error e => throw (.contractCall ("Invalid withdraw amount: " ++ e.message))
  | .ok raw => do return (← c.withdraw raw request.destination).transaction

end Client
end TokenBridge
