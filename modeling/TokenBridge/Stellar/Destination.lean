import TokenBridge.Dialogue
import TokenBridge.NetworkError
import TokenBridge.Stellar.Account
import TokenBridge.Text.Blank

namespace TokenBridge.Stellar

inductive AddressError
  | empty
  | accountNotFound (address : String)
  | missingTrustLine (address assetCode : String)
  deriving DecidableEq, Repr

def AddressError.message : AddressError → String
  | .empty => "Address not valid"
  | .accountNotFound _ => "Address not found"
  | .missingTrustLine _ assetCode => "Address does not have a valid trustline to " ++ assetCode

abbrev Lookup := Except NetworkError Account

namespace Destination

def ofString (s : String) : Except AddressError String :=
  let address := Text.trim s
  if address = "" then .error .empty else .ok address

def judge (asset : Asset) (address : String) : Lookup → Except AddressError String
  | .error _ => .error (.accountNotFound address)
  | .ok account =>
    if account.trusts asset then .ok address
    else .error (.missingTrustLine address asset.code)

def validate {m : Type → Type} [Monad m] (lookup : String → m Lookup) (asset : Asset) (s : String) :
    m (Except AddressError String) :=
  match ofString s with
  | .error e => pure (.error e)
  | .ok address => do return judge asset address (← lookup address)

end Destination
end TokenBridge.Stellar
