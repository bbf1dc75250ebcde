import TokenBridge.Evm.Address
import TokenBridge.Numeral
import TokenBridge.Stellar.Account
import TokenBridge.Text.Blank

namespace TokenBridge

inductive ConfigError
  | missing (name : String)
  | invalid (name reason : String)
  deriving DecidableEq, Repr

def ConfigError.message : ConfigError → String
  | .missing name => name ++ " required"
  | .invalid name reason => "invalid " ++ name ++ ": " ++ reason

abbrev Variables := String → Option String

def defaultNetwork : String := "stellar"

def defaultHorizon : String := "https://horizon.stellar.org"

structure Config where
  horizon : String
  asset : Stellar.Asset
  bridge : Option String
  contract : Option Address
  rpc : Option String
  chain : Option Nat
  network : String
  pollInterval : Nat
  deriving DecidableEq, Repr

namespace Config

def setting? (vars : Variables) (name : String) : Option String :=
  match vars name with
  | none => none
  | some value =>
    let value := Text.trim value
    if value = "" then none else some value

def defaultPollInterval : Nat := 12000

def assetCode (vars : Variables) : String :=
  (setting? vars "TFT_ASSET_CODE").getD Stellar.tokenCode

def issuer (vars : Variables) : Except ConfigError String :=
  match setting? vars "TFT_ASSET_ISSUER" with
  | some issuer => .ok issuer
  | none => .error (.missing "TFT_ASSET_ISSUER")

def reading {α : Type} (vars : Variables) (name : String) (reader : String → Except String α) :
    Except ConfigError (Option α) :=
  match setting? vars name with
  | none => .ok none
  | some s =>
    match reader s with
    | .ok a => .ok (some a)
    | .error reason => .error (.invalid name reason)

def readAddress (s : String) : Except String Address :=
  (Address.read s).mapError Hex.Fault.message

def readWord64 (s : String) : Except String Nat :=
  (Numeral.read64 s).mapError Numeral.Fault.message

def readInterval (s : String) : Except String Nat := do
  let ms ← readWord64 s
  if ms = 0 then .error "must be greater than zero" else .ok ms

def contractAddress (vars : Variables) : Except ConfigError (Option Address) :=
  reading vars "CONTRACT_ADDRESS" readAddress

def chainId (vars : Variables) : Except ConfigError (Option Nat) :=
  reading vars "EVM_CHAIN_ID" readWord64

def interval (vars : Variables) : Except ConfigError Nat :=
  (reading vars "BALANCE_POLL_INTERVAL_MS" readInterval).map (·.getD defaultPollInterval)

def read (vars : Variables) : Except ConfigError Config := do
  let issuer ← issuer vars
  let contract ← contractAddress vars
  let chain ← chainId vars
  let pollInterval ← interval vars
  return {
    horizon := (setting? vars "STELLAR_HORIZON_URL").getD defaultHorizon
    asset := ⟨assetCode vars, issuer⟩
    bridge := setting? vars "BRIDGE_TFT_ADDRESS"
    contract
    rpc := setting? vars "EVM_RPC_URL"
    chain
    network := (setting? vars "STELLAR_ENV").getD defaultNetwork
    pollInterval }

end Config
end TokenBridge
