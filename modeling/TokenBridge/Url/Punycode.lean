namespace TokenBridge.Url.Punycode

def base : Nat := 36

def firstBias : Nat := 72

def firstCode : Nat := 128

def threshold (place bias : Nat) : Nat :=
  if place ≤ bias then 1 else if bias + 26 ≤ place then 26 else place - bias

theorem one_le_threshold (place bias : Nat) : 1 ≤ threshold place bias := by
  unfold threshold
  split
  · exact Nat.le_refl 1
  · split <;> omega

def digit (n : Nat) : Char :=
  if n < 26 then Char.ofNat (97 + n) else Char.ofNat (22 + n)

def digit? (c : Char) : Option Nat :=
  let n := c.toNat
  if 97 ≤ n ∧ n ≤ 122 then some (n - 97)
  else if 65 ≤ n ∧ n ≤ 90 then some (n - 65)
  else if 48 ≤ n ∧ n ≤ 57 then some (n - 22)
  else none

def settle (n : Nat) : Nat × Nat :=
  if 455 < n then
    let (rest, places) := settle (n / 35)
    (rest, places + base)
  else (n, 0)
termination_by n

def adapt (delta count : Nat) (first : Bool) : Nat :=
  let delta := if first then delta / 700 else delta / 2
  let (rest, places) := settle (delta + delta / count)
  places + base * rest / (rest + 38)

def number (n place bias : Nat) : List Char :=
  let t := threshold place bias
  if n < t then [digit n]
  else digit (t + (n - t) % (base - t)) :: number ((n - t) / (base - t)) (place + base) bias
termination_by n
decreasing_by
  have := one_le_threshold place bias
  have := Nat.div_le_self (n - threshold place bias) (base - threshold place bias)
  omega

structure Encoder where
  output : List Char
  delta : Nat
  bias : Nat
  handled : Nat

def Encoder.pass (basic code : Nat) (e : Encoder) (c : Char) : Encoder :=
  if c.toNat < code then { e with delta := e.delta + 1 }
  else if c.toNat = code then
    { output := e.output ++ number e.delta base e.bias
      delta := 0
      bias := adapt e.delta (e.handled + 1) (e.handled = basic)
      handled := e.handled + 1 }
  else e

def encodeCodes (label : List Char) (basic : Nat) : Nat → List Nat → Encoder → Encoder
  | _, [], e => e
  | previous, code :: rest, e =>
    let e := { e with delta := e.delta + (code - previous) * (e.handled + 1) }
    let e := label.foldl (Encoder.pass basic code) e
    encodeCodes label basic (code + 1) rest { e with delta := e.delta + 1 }

def encode (label : List Char) : List Char :=
  let basic := label.filter (·.toNat < firstCode)
  let codes := ((label.map Char.toNat).filter (firstCode ≤ ·)).mergeSort.eraseDups
  let start := if basic.isEmpty then [] else basic ++ ['-']
  (encodeCodes label basic.length firstCode codes ⟨start, 0, firstBias, basic.length⟩).output

structure Decoder where
  output : List Char
  code : Nat
  position : Nat
  bias : Nat
  origin : Nat
  weight : Nat
  place : Nat

def Decoder.read (d : Decoder) (c : Char) : Option Decoder := do
  let n ← digit? c
  let position := d.position + n * d.weight
  let t := threshold d.place d.bias
  if n < t then
    let count := d.output.length + 1
    let code := d.code + position / count
    if code < 0x110000 ∧ (code < 0xD800 ∨ 0xDFFF < code) then
      let at_ := position % count
      return {
        output := d.output.take at_ ++ Char.ofNat code :: d.output.drop at_
        code
        position := at_ + 1
        bias := adapt (position - d.origin) count (d.origin = 0)
        origin := at_ + 1
        weight := 1
        place := base }
    else none
  else return { d with position, weight := d.weight * (base - t), place := d.place + base }

def decode? (s : List Char) : Option (List Char) := do
  let back := s.reverse.takeWhile (· ≠ '-')
  let basic := s.take (s.length - back.length - 1)
  let d ← back.reverse.foldlM Decoder.read ⟨basic, firstCode, 0, firstBias, 0, 1, base⟩
  if d.weight = 1 ∧ d.place = base then some d.output else none

end TokenBridge.Url.Punycode
