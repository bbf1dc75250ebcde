namespace TokenBridge.Rounding

def significantBits : Nat := 53

def spacing (n : Nat) : Nat :=
  Nat.pow 2 (n.log2 + 1 - significantBits)

def nearest (n : Nat) : Nat :=
  let below := n / spacing n
  let rest := n % spacing n
  if spacing n < 2 * rest ∨ (2 * rest = spacing n ∧ below % 2 = 1) then (below + 1) * spacing n
  else below * spacing n

def infinity : Nat := Nat.pow 2 1024 - Nat.pow 2 970

end TokenBridge.Rounding
