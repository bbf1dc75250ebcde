import TokenBridge.Amount
import TokenBridge.NetworkError

namespace TokenBridge.Balance

inductive View
  | unknown
  | loaded (raw : Word)
  | error (text : String)
  deriving DecidableEq, Repr

namespace View

def raw? : View → Option Word
  | .loaded raw => some raw
  | _ => none

def display : View → String
  | .unknown => "Connect your wallet to continue"
  | .loaded raw => "Your TFT Balance " ++ Amount.formatBalance raw
  | .error _ => "Error"

def ofAnswer : Except NetworkError Word → View
  | .ok raw => .loaded raw
  | .error e => .error e.message

end View
end TokenBridge.Balance
