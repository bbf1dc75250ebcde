import TokenBridge.Amount

namespace TokenBridge.Withdrawal

structure ValidAmount where
  amount : Decimal
  raw : Word
  deriving DecidableEq, Repr

def validateAmount (amount : Decimal) (balance : Word) : Except AmountError ValidAmount := do
  if amount.digits ≤ 0 then .error .nonPositive
  else
    Amount.checkMagnitude amount
    if (Amount.ofBaseUnits balance).lt amount then
      .error (.insufficientBalance (Amount.format amount) (Amount.formatBalance balance))
    else
      let raw ← Amount.toBaseUnits amount
      return ⟨amount, raw⟩

def validateInput (input : String) (balance : Word) : Except AmountError ValidAmount := do
  validateAmount (← Amount.parse input) balance

end TokenBridge.Withdrawal
