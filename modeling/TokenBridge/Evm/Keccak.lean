import TokenBridge.Text.Utf8

namespace TokenBridge.Keccak

abbrev State := Vector UInt64 25

def State.lane (s : State) (x y : Nat) : UInt64 :=
  s.getD (x % 5 + 5 * (y % 5)) 0

def zeroState : State :=
  Vector.replicate 25 0

def rotateLeft (w : UInt64) (n : Nat) : UInt64 :=
  if n = 0 then w else (w <<< UInt64.ofNat n) ||| (w >>> UInt64.ofNat (64 - n))

def rotations : Vector Nat 25 :=
  #v[0, 1, 62, 28, 27, 36, 44, 6, 55, 20, 3, 10, 43, 25, 39, 41, 45, 15, 21, 8, 18, 2, 61, 56, 14]

def roundConstants : List UInt64 :=
  [0x0000000000000001, 0x0000000000008082, 0x800000000000808A, 0x8000000080008000,
   0x000000000000808B, 0x0000000080000001, 0x8000000080008081, 0x8000000000008009,
   0x000000000000008A, 0x0000000000000088, 0x0000000080008009, 0x000000008000000A,
   0x000000008000808B, 0x800000000000008B, 0x8000000000008089, 0x8000000000008003,
   0x8000000000008002, 0x8000000000000080, 0x000000000000800A, 0x800000008000000A,
   0x8000000080008081, 0x8000000000008080, 0x0000000080000001, 0x8000000080008008]

def columnParity (s : State) (x : Nat) : UInt64 :=
  s.lane x 0 ^^^ s.lane x 1 ^^^ s.lane x 2 ^^^ s.lane x 3 ^^^ s.lane x 4

def theta (s : State) : State :=
  let parity : Vector UInt64 5 := Vector.ofFn fun x => columnParity s x
  Vector.ofFn fun i =>
    s[i] ^^^ parity.getD ((i.val + 4) % 5) 0 ^^^ rotateLeft (parity.getD ((i.val + 1) % 5) 0) 1

def rhoPi (s : State) : State :=
  Vector.ofFn fun i =>
    let column := i.val % 5
    let row := i.val / 5
    let origin := (column + 3 * row) % 5 + 5 * column
    rotateLeft (s.getD origin 0) (rotations.getD origin 0)

def chi (s : State) : State :=
  Vector.ofFn fun i =>
    let x := i.val % 5
    let y := i.val / 5
    s[i] ^^^ (~~~(s.lane (x + 1) y) &&& s.lane (x + 2) y)

def round (s : State) (constant : UInt64) : State :=
  let mixed := chi (rhoPi (theta s))
  mixed.setIfInBounds 0 (mixed.lane 0 0 ^^^ constant)

def permute (s : State) : State :=
  roundConstants.foldl round s

def rate : Nat := 136

def laneOf (bytes : Bytes) : UInt64 :=
  UInt64.ofNat (bytes.foldr (fun b n => 256 * n + b.toNat) 0)

def bytesOfLane (w : UInt64) : Bytes :=
  (List.range 8).map fun i => (w >>> UInt64.ofNat (8 * i)).toUInt8

def absorb (s : State) (block : Bytes) : State :=
  permute (Vector.ofFn fun i =>
    if i.val < 17 then s[i] ^^^ laneOf ((block.drop (8 * i.val)).take 8) else s[i])

def padded (message : Bytes) : Bytes :=
  let gap := rate - message.length % rate
  if gap = 1 then message ++ [0x81]
  else message ++ 0x01 :: List.replicate (gap - 2) 0x00 ++ [0x80]

def blocks : Nat → Bytes → List Bytes
  | 0, _ => []
  | n + 1, bytes => bytes.take rate :: blocks n (bytes.drop rate)

end TokenBridge.Keccak

namespace TokenBridge

def keccak256 (message : Bytes) : Bytes :=
  let input := Keccak.padded message
  let final := (Keccak.blocks (input.length / Keccak.rate) input).foldl Keccak.absorb Keccak.zeroState
  ((List.range 4).flatMap fun i => Keccak.bytesOfLane (final.lane i 0))

end TokenBridge
