import TokenBridge.Withdrawal.Form

namespace TokenBridge.Withdrawal

open Stellar (Asset AddressError)

/-- A step of a history. Checks and outcomes go by the order in which they arose. -/
inductive Step
  | setBalance (raw : Word)
  | editDestination (input : String)
  | editAmount (input : String)
  | reset
  | validateAmount
  | validateDestination
  | beginCheck
  | runCheck (check : Nat)
  | applyOutcome (outcome : Nat)
  | request
  | submit
  | validateAndSubmit
  deriving DecidableEq, Repr

inductive Result
  | none
  | amount (result : Except AmountError Unit)
  | destination (result : Except AddressError Unit)
  | begun (result : Except AddressError (Nat × String))
  | ran (outcome : Option Nat)
  | applied (result : Option Bool)
  | request (result : Except WithdrawError Request)
  | submitted (result : Except WithdrawError Form.Receipt)

structure History where
  form : Form
  checks : List Check
  outcomes : List Outcome

namespace History

def start (asset : Asset) : History :=
  ⟨.new asset, [], []⟩

def step (h : History) : Step → Talk (Result × History)
  | .setBalance raw => return (.none, { h with form := h.form.setBalance raw })
  | .editDestination input => return (.none, { h with form := h.form.editDestination input })
  | .editAmount input => return (.none, { h with form := h.form.editAmount input })
  | .reset => return (.none, { h with form := h.form.reset })
  | .validateAmount =>
    let (result, form) := h.form.validateAmount
    return (.amount result, { h with form := form })
  | .validateDestination => do
    let (result, form) ← h.form.validateDestination
    return (.destination result, { h with form := form })
  | .beginCheck =>
    match h.form.beginCheck with
    | (.error e, form) => return (.begun (.error e), { h with form := form })
    | (.ok check, form) =>
      return (.begun (.ok (h.checks.length, check.address)),
        { h with form := form, checks := h.checks ++ [check] })
  | .runCheck n =>
    match h.checks[n]? with
    | none => return (.ran none, h)
    | some check => do
      let outcome ← check.run
      return (.ran (some h.outcomes.length), { h with outcomes := h.outcomes ++ [outcome] })
  | .applyOutcome n =>
    match h.outcomes[n]? with
    | none => return (.applied none, h)
    | some outcome =>
      let (applied, form) := h.form.applyOutcome outcome
      return (.applied (some applied), { h with form := form })
  | .request => return (.request h.form.request, h)
  | .submit => do return (.submitted (← h.form.submit), h)
  | .validateAndSubmit => do
    let (result, form) ← h.form.validateAndSubmit
    return (.submitted result, { h with form := form })

end History
end TokenBridge.Withdrawal
