import TokenBridge.Json.Reader
import TokenBridge.Json.Record
import TokenBridge.Json.Writer

namespace TokenBridge.Stellar

structure Asset where
  code : String
  issuer : String
  deriving DecidableEq, Repr

def tokenCode : String := "TFT"

namespace Asset

def ofJson (v : Json) : Option Asset := do
  match ← v.fields? ["code", "issuer"] with
  | [code, issuer] => return ⟨← Json.requiredString code, ← Json.requiredString issuer⟩
  | _ => none

def toJson (a : Asset) : Json :=
  .record [("code", .text a.code), ("issuer", .text a.issuer)]

end Asset

structure TrustLine where
  assetType : String
  assetCode : Option String
  assetIssuer : Option String
  balance : String
  deriving DecidableEq, Repr

namespace TrustLine

def isFor (line : TrustLine) (asset : Asset) : Bool :=
  line.assetCode = some asset.code && line.assetIssuer = some asset.issuer

def ofJson (v : Json) : Option TrustLine := do
  match ← v.fields? ["asset_type", "asset_code", "asset_issuer", "balance"] with
  | [type, code, issuer, balance] =>
    return ⟨← Json.requiredString type, ← Json.optionalString code, ← Json.optionalString issuer,
      ← Json.defaultString balance⟩
  | _ => none

def toJson (line : TrustLine) : Json :=
  .record
    [("asset_type", .text line.assetType), ("asset_code", .optional line.assetCode),
     ("asset_issuer", .optional line.assetIssuer), ("balance", .text line.balance)]

end TrustLine

structure Account where
  id : String
  lines : List TrustLine
  deriving DecidableEq, Repr

namespace Account

def trusts (account : Account) (asset : Asset) : Bool :=
  account.lines.any (·.isFor asset)

def linesOfJson : Option Json → Option (List TrustLine)
  | none => some []
  | some (.array items) => items.mapM TrustLine.ofJson
  | some _ => none

def ofJson (v : Json) : Option Account := do
  match ← v.fields? ["account_id", "balances"] with
  | [id, balances] => return ⟨← Json.requiredString id, ← linesOfJson balances⟩
  | _ => none

def read (s : List Char) : Option Account := do
  ofJson (← Json.read s)

def toJson (account : Account) : Json :=
  .record [("account_id", .text account.id), ("balances", .array (account.lines.map TrustLine.toJson))]

end Account
end TokenBridge.Stellar
