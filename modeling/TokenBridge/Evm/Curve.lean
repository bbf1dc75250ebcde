namespace TokenBridge.Curve

def modulus : Nat := Nat.pow 2 256 - Nat.pow 2 32 - 977

def order : Nat := 0xFFFFFFFFFFFFFFFFFFFFFFFFFFFFFFFEBAAEDCE6AF48A03BBFD25E8CD0364141

structure Point where
  x : Nat
  y : Nat
  z : Nat
  deriving DecidableEq, Repr

def infinity : Point := ⟨1, 1, 0⟩

def generator : Point :=
  ⟨0x79BE667EF9DCBBAC55A06295CE870B07029BFCDB2DCE28D959F2815B16F81798,
   0x483ADA7726A3C4655DA4FBFC0E1108A8FD17B448A68554199C47D08FFB10D4B8, 1⟩

def mul (a b : Nat) : Nat :=
  a * b % modulus

def sub (a b : Nat) : Nat :=
  (a + modulus - b % modulus) % modulus

def power (a : Nat) (n : Nat) : Nat :=
  if n = 0 then 1
  else
    let half := power (mul a a) (n / 2)
    if n % 2 = 1 then mul a half else half
termination_by n

def inverse (a : Nat) : Nat :=
  power a (modulus - 2)

def double (p : Point) : Point :=
  if p.y = 0 ∨ p.z = 0 then infinity
  else
    let yy := mul p.y p.y
    let s := mul 4 (mul p.x yy)
    let m := mul 3 (mul p.x p.x)
    let x := sub (mul m m) (mul 2 s)
    ⟨x, sub (mul m (sub s x)) (mul 8 (mul yy yy)), mul 2 (mul p.y p.z)⟩

def add (p q : Point) : Point :=
  if p.z = 0 then q
  else if q.z = 0 then p
  else
    let pzz := mul p.z p.z
    let qzz := mul q.z q.z
    let u := mul p.x qzz
    let s := mul p.y (mul qzz q.z)
    let h := sub (mul q.x pzz) u
    let r := sub (mul q.y (mul pzz p.z)) s
    if h = 0 then if r = 0 then double p else infinity
    else
      let hh := mul h h
      let hhh := mul hh h
      let v := mul u hh
      let x := sub (sub (mul r r) hhh) (mul 2 v)
      ⟨x, sub (mul r (sub v x)) (mul s hhh), mul h (mul p.z q.z)⟩

def times (n : Nat) (p : Point) : Point :=
  if n = 0 then infinity
  else
    let half := times (n / 2) (double p)
    if n % 2 = 1 then add p half else half
termination_by n

def affine (p : Point) : Nat × Nat :=
  let i := inverse p.z
  let ii := mul i i
  (mul p.x ii, mul p.y (mul ii i))

end TokenBridge.Curve
