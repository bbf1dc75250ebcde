namespace TokenBridge

inductive NetworkError
  | accountMissing (account : String)
  | lookup (cause : String)
  | contractCall (cause : String)
  | reverted (transaction : String)
  | wrongChain (expected actual : Nat)
  deriving DecidableEq, Repr

def NetworkError.message : NetworkError → String
  | .accountMissing account => "account " ++ account ++ " does not exist on the ledger"
  | .lookup cause => "account lookup failed: " ++ cause
  | .contractCall cause => "contract call failed: " ++ cause
  | .reverted transaction => "transaction " ++ transaction ++ " reverted"
  | .wrongChain expected actual =>
      "connected to chain " ++ toString actual ++ ", expected " ++ toString expected

end TokenBridge
