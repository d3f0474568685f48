import KeyChange.Bytes

namespace KeyChange.Keccak

/-- The lane at column `x` and row `y` has index `x + 5 * y`. -/
abbrev State := Array UInt64

def lane (s : State) (x y : Nat) : UInt64 := s.getD (x % 5 + 5 * (y % 5)) 0

def build (f : Nat → Nat → UInt64) : State :=
  ((List.range 25).map fun i => f (i % 5) (i / 5)).toArray

def rotate (x : UInt64) (n : Nat) : UInt64 :=
  if n = 0 then x else (x <<< UInt64.ofNat n) ||| (x >>> UInt64.ofNat (64 - n))

def rotations : Array Nat := #[
  0, 1, 62, 28, 27,
  36, 44, 6, 55, 20,
  3, 10, 43, 25, 39,
  41, 45, 15, 21, 8,
  18, 2, 61, 56, 14]

def roundConstants : List UInt64 := [
  0x0000000000000001, 0x0000000000008082, 0x800000000000808a, 0x8000000080008000,
  0x000000000000808b, 0x0000000080000001, 0x8000000080008081, 0x8000000000008009,
  0x000000000000008a, 0x0000000000000088, 0x0000000080008009, 0x000000008000000a,
  0x000000008000808b, 0x800000000000008b, 0x8000000000008089, 0x8000000000008003,
  0x8000000000008002, 0x8000000000000080, 0x000000000000800a, 0x800000008000000a,
  0x8000000080008081, 0x8000000000008080, 0x0000000080000001, 0x8000000080008008]

/-- Each lane takes up the parities of two columns beside it. -/
def diffuse (s : State) : State :=
  let parity := ((List.range 5).map fun x =>
    lane s x 0 ^^^ lane s x 1 ^^^ lane s x 2 ^^^ lane s x 3 ^^^ lane s x 4).toArray
  let column := fun x => parity.getD (x % 5) 0
  build fun x y => lane s x y ^^^ column (x + 4) ^^^ rotate (column (x + 1)) 1

/-- Lanes are rotated and change places. -/
def permute (s : State) : State :=
  build fun x y =>
    let x' := (x + 3 * y) % 5
    rotate (lane s x' x) (rotations.getD (x' + 5 * x) 0)

/-- Each lane is combined with the two after it in its row. -/
def combine (s : State) : State :=
  build fun x y => lane s x y ^^^ (~~~lane s (x + 1) y &&& lane s (x + 2) y)

def round (s : State) (constant : UInt64) : State :=
  (combine (permute (diffuse s))).modify 0 (· ^^^ constant)

def permutation (s : State) : State := roundConstants.foldl round s

def rate : Nat := 136

/-- The message, a one bit, and zeros up to a one bit at the end of a block. -/
def pad (message : List UInt8) : List UInt8 :=
  match rate - message.length % rate with
  | 1 => message ++ [0x81]
  | n => message ++ 0x01 :: List.replicate (n - 2) 0 ++ [0x80]

def laneAt (bytes : Array UInt8) (i : Nat) : UInt64 :=
  UInt64.ofNat ((List.range 8).foldr (fun j n => n * 256 + (bytes.getD (8 * i + j) 0).toNat) 0)

def absorb (message : List UInt8) : State :=
  let bytes := (pad message).toArray
  (List.range (bytes.size / rate)).foldl (fun s i =>
    permutation (build fun x y =>
      let j := x + 5 * y
      if j < rate / 8 then lane s x y ^^^ laneAt bytes (rate / 8 * i + j) else lane s x y))
    (build fun _ _ => 0)

/-- Keccak-256: a sponge over 25 lanes of 64 bits. -/
def digest (message : List UInt8) : Bytes 32 :=
  let s := absorb message
  ⟨[lane s 0 0, lane s 1 0, lane s 2 0, lane s 3 0].flatMap fun w => littleEndian 8 w.toNat, by
    simp⟩

end KeyChange.Keccak
