import TokenBridge.Memo
import TokenBridge.Url.Percent
import TokenBridge.Json.Writer

namespace TokenBridge.Deposit

def memoWarning : String :=
  "Please always include the generated memo text for every swap transaction. " ++
    "Failure to do so will result in unrecoverable loss of funds!"

inductive Refusal
  | acknowledgementRequired
  deriving DecidableEq, Repr

def Refusal.message : Refusal → String
  | .acknowledgementRequired =>
      "the memo warning must be acknowledged before deposit details are shown"

structure Instructions where
  destination : String
  memo : Memo
  qrPayload : String
  deriving DecidableEq, Repr

def qrPayload (bridge : String) (memo : Memo) : String :=
  "TFT:" ++ bridge ++ "?message=" ++ String.ofList (Url.formEncode memo.text.toList) ++ "&sender=me"

def Instructions.toJson (i : Instructions) : Json :=
  .record
    [("destination", .text i.destination), ("memo", .text i.memo.text),
     ("qr_payload", .text i.qrPayload)]

structure Dialog where
  bridge : String
  account : Address
  acknowledged : Bool
  deriving DecidableEq, Repr

namespace Dialog

def start (bridge : String) (account : Address) : Dialog :=
  ⟨bridge, account, false⟩

def acknowledge (d : Dialog) : Dialog :=
  { d with acknowledged := true }

def revoke (d : Dialog) : Dialog :=
  { d with acknowledged := false }

def instructions (d : Dialog) : Except Refusal Instructions :=
  if d.acknowledged then
    let memo := Memo.ofAddress d.account
    .ok ⟨d.bridge, memo, qrPayload d.bridge memo⟩
  else .error .acknowledgementRequired

end Dialog
end TokenBridge.Deposit
