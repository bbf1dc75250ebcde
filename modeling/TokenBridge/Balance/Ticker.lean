namespace TokenBridge.Balance

def tolerance : Nat := 5

structure Ticker where
  interval : Nat
  due : Nat
  deriving DecidableEq, Repr

namespace Ticker

def start (interval now : Nat) : Ticker :=
  ⟨interval, now⟩

def isDue (t : Ticker) (now : Nat) : Bool :=
  t.due ≤ now

def take (t : Ticker) (now : Nat) : Ticker :=
  { t with due := if now ≤ t.due + tolerance then t.due + t.interval else now + t.interval }

end Ticker
end TokenBridge.Balance
