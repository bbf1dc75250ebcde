import TokenBridge.Text.Utf8

namespace TokenBridge

def bigEndian : Nat → Nat → Bytes
  | 0, _ => []
  | size + 1, n => bigEndian size (n / 256) ++ [UInt8.ofNat (n % 256)]

def ofBigEndian (bytes : Bytes) : Nat :=
  bytes.foldl (fun n b => 256 * n + b.toNat) 0

@[simp] theorem length_bigEndian (size n : Nat) : (bigEndian size n).length = size := by
  induction size generalizing n with
  | zero => rfl
  | succ size ih => simp [bigEndian, ih]

theorem ofBigEndian_append (bytes : Bytes) (b : UInt8) :
    ofBigEndian (bytes ++ [b]) = 256 * ofBigEndian bytes + b.toNat := by
  simp [ofBigEndian]

theorem ofBigEndian_bigEndian (size n : Nat) : ofBigEndian (bigEndian size n) = n % Nat.pow 256 size := by
  induction size generalizing n with
  | zero => simp [bigEndian, ofBigEndian, Nat.mod_one]
  | succ size ih =>
    rw [bigEndian, ofBigEndian_append, ih, Nat.pow_eq, Nat.pow_eq, Nat.pow_succ', Nat.mod_mul]
    simp
    omega

structure Word where
  val : Nat
  val_lt : val < Nat.pow 2 256
  deriving DecidableEq, Repr

namespace Word

def ofNat? (n : Nat) : Option Word :=
  if h : n < Nat.pow 2 256 then some ⟨n, h⟩ else none

def zero : Word := ⟨0, by decide⟩

def bytes (w : Word) : Bytes :=
  bigEndian 32 w.val

def ofBytes? (bytes : Bytes) : Option Word :=
  ofNat? (ofBigEndian bytes)

theorem eq_of_val_eq : ∀ {a b : Word}, a.val = b.val → a = b
  | ⟨_, _⟩, ⟨_, _⟩, rfl => rfl

theorem ofNat?_eq_some_iff {n : Nat} {w : Word} : ofNat? n = some w ↔ w.val = n := by
  unfold ofNat?
  split
  · constructor
    · rintro ⟨⟩; rfl
    · rintro rfl; rfl
  · next h =>
    constructor
    · rintro ⟨⟩
    · rintro rfl; exact absurd w.val_lt h

theorem ofNat?_eq_none_iff {n : Nat} : ofNat? n = none ↔ Nat.pow 2 256 ≤ n := by
  rw [ofNat?]
  split
  · next h => exact ⟨nofun, fun hle => absurd h (Nat.not_lt.2 hle)⟩
  · next h => exact ⟨fun _ => Nat.not_lt.1 h, fun _ => rfl⟩

@[simp] theorem ofNat?_val (w : Word) : ofNat? w.val = some w :=
  ofNat?_eq_some_iff.2 rfl

@[simp] theorem ofBytes?_bytes (w : Word) : ofBytes? w.bytes = some w := by
  have h : w.val < Nat.pow 256 32 := w.val_lt
  rw [ofBytes?, bytes, ofBigEndian_bigEndian, Nat.mod_eq_of_lt h, ofNat?_val]

end Word
end TokenBridge
