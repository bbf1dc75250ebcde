import TokenBridge.Evm.Address
import TokenBridge.Stellar.Destination
import TokenBridge.Withdrawal.Amount

namespace TokenBridge.Withdrawal

open Stellar (Asset AddressError Account Lookup Destination.ofString Destination.judge)

inductive Field (α ε : Type)
  | empty
  | validating
  | valid (value : α)
  | invalid (error : ε)
  deriving DecidableEq, Repr

namespace Field

variable {α ε : Type}

def isValid : Field α ε → Bool
  | .valid _ => true
  | _ => false

def error? : Field α ε → Option ε
  | .invalid e => some e
  | _ => none

def ofResult : Except ε α → Field α ε
  | .ok value => .valid value
  | .error e => .invalid e

end Field

structure Request where
  destination : String
  amount : Decimal
  sourceBalance : Word
  deriving DecidableEq, Repr

def Request.rawAmount (r : Request) : Except AmountError Word :=
  Amount.toBaseUnits r.amount

inductive Unready
  | destination
  | amount
  deriving DecidableEq, Repr

def Unready.message : Unready → String
  | .destination => "withdrawal form is not ready: destination has not been validated"
  | .amount => "withdrawal form is not ready: amount has not been validated"

inductive WithdrawError
  | address (e : AddressError)
  | amount (e : AmountError)
  | network (e : NetworkError)
  | notReady (field : Unready)
  deriving DecidableEq, Repr

def WithdrawError.message : WithdrawError → String
  | .address e => e.message
  | .amount e => e.message
  | .network e => e.message
  | .notReady field => field.message

inductive Query
  | account (id : String)
  | dispatch (request : Request)
  deriving DecidableEq, Repr

abbrev Answer : Query → Type
  | .account _ => Lookup
  | .dispatch _ => Except NetworkError Hash

abbrev Talk := Dialogue Query Answer

def lookup (id : String) : Talk Lookup :=
  .ask (.account id) .done

def dispatch (request : Request) : Talk (Except NetworkError Hash) :=
  .ask (.dispatch request) .done

structure Check where
  generation : Nat
  address : String
  asset : Asset
  deriving DecidableEq, Repr

structure Outcome where
  generation : Nat
  result : Except AddressError String

def Check.run (c : Check) : Talk Outcome := do
  return ⟨c.generation, ← Stellar.Destination.validate lookup c.asset c.address⟩

/-- Generations, here as in `Check` and `Outcome`, are numbers without a bound. A counter of 64 bits tells them apart
as long as the destination is edited and the form is reset fewer than `2 ^ 64` times. -/
structure Form where
  asset : Asset
  balance : Option Word
  destinationInput : String
  destination : Field String AddressError
  generation : Nat
  amountInput : String
  amount : Field ValidAmount AmountError
  amountEdited : Bool
  deriving DecidableEq, Repr

namespace Form

def new (asset : Asset) : Form :=
  ⟨asset, none, "", .empty, 0, "", .empty, false⟩

def available (f : Form) : Word :=
  f.balance.getD Word.zero

def setBalance (f : Form) (raw : Word) : Form :=
  { f with
    balance := some raw
    amountInput := if f.amountEdited then f.amountInput else Amount.formatBalance raw
    amount := .empty }

def editDestination (f : Form) (input : String) : Form :=
  { f with destinationInput := input, generation := f.generation + 1, destination := .empty }

def editAmount (f : Form) (input : String) : Form :=
  { f with amountInput := input, amountEdited := true, amount := .empty }

def validateAmount (f : Form) : Except AmountError Unit × Form :=
  let result := validateInput f.amountInput f.available
  (result.map fun _ => (), { f with amount := .ofResult result })

def beginCheck (f : Form) : Except AddressError Check × Form :=
  match Destination.ofString f.destinationInput with
  | .error e => (.error e, { f with destination := .invalid e })
  | .ok address =>
    (.ok ⟨f.generation, address, f.asset⟩, { f with destination := .validating })

def applyOutcome (f : Form) (o : Outcome) : Bool × Form :=
  if o.generation = f.generation then (true, { f with destination := .ofResult o.result })
  else (false, f)

def validateDestination (f : Form) : Talk (Except AddressError Unit × Form) :=
  match f.beginCheck with
  | (.error e, f) => return (.error e, f)
  | (.ok check, f) => do
    let outcome ← check.run
    return (outcome.result.map fun _ => (), (f.applyOutcome outcome).2)

def request (f : Form) : Except WithdrawError Request :=
  match f.destination, f.amount with
  | .valid destination, .valid amount => .ok ⟨destination, amount.amount, f.available⟩
  | .valid _, _ => .error (.notReady .amount)
  | _, _ => .error (.notReady .destination)

structure Receipt where
  request : Request
  transaction : Hash
  deriving DecidableEq, Repr

def submit (f : Form) : Talk (Except WithdrawError Receipt) :=
  match f.request with
  | .error e => return .error e
  | .ok request => do
    match ← dispatch request with
    | .error e => return .error (.network e)
    | .ok transaction => return .ok ⟨request, transaction⟩

def validateAndSubmit (f : Form) : Talk (Except WithdrawError Receipt × Form) := do
  match ← f.validateDestination with
  | (.error e, f) => return (.error (.address e), f)
  | (.ok _, f) =>
    match f.validateAmount with
    | (.error e, f) => return (.error (.amount e), f)
    | (.ok _, f) => return (← f.submit, f)

def reset (f : Form) : Form :=
  let fresh := { new f.asset with generation := f.generation + 1 }
  match f.balance with
  | some raw => fresh.setBalance raw
  | none => fresh

end Form
end TokenBridge.Withdrawal
