import TokenBridge.Evm.Word
import TokenBridge.Numeral

namespace TokenBridge.Coin

def decimals : Nat := 18

def format (raw : Word) : String :=
  let fraction := Numeral.digits (raw.val % Numeral.powerOfTen decimals)
  String.ofList (Numeral.digits (raw.val / Numeral.powerOfTen decimals) ++
    '.' :: List.replicate (decimals - fraction.length) '0' ++ fraction)

end TokenBridge.Coin
