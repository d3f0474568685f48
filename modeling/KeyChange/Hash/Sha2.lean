import KeyChange.Bytes

namespace KeyChange.Sha2

/-- Two rotations and a third amount, by which a word is rotated or shifted. -/
structure Amounts where
  first : Nat
  second : Nat
  third : Nat

/-- What sets one hash function of the family apart. -/
structure Family (W : Type) where
  wordBytes : Nat
  ofNat : Nat → W
  toNat : W → Nat
  rotate : W → Nat → W
  shift : W → Nat → W
  sum0 : Amounts
  sum1 : Amounts
  mix0 : Amounts
  mix1 : Amounts
  roundConstants : List W

structure Chain (W : Type) where
  a : W
  b : W
  c : W
  d : W
  e : W
  f : W
  g : W
  h : W

section

variable {W : Type} [Add W] [XorOp W] [AndOp W] [Complement W]

@[specialize] def Family.sum (F : Family W) (s : Amounts) (x : W) : W :=
  F.rotate x s.first ^^^ F.rotate x s.second ^^^ F.rotate x s.third

@[specialize] def Family.mix (F : Family W) (s : Amounts) (x : W) : W :=
  F.rotate x s.first ^^^ F.rotate x s.second ^^^ F.shift x s.third

@[specialize] def Family.round (F : Family W) (s : Chain W) (w : W) : Chain W :=
  let t1 := s.h + F.sum F.sum1 s.e + ((s.e &&& s.f) ^^^ (~~~s.e &&& s.g)) + w
  let t2 := F.sum F.sum0 s.a + ((s.a &&& s.b) ^^^ (s.a &&& s.c) ^^^ (s.b &&& s.c))
  ⟨t1 + t2, s.a, s.b, s.c, s.d + t1, s.e, s.f, s.g⟩

/-- The words of a schedule, the latest first, and `more` after them. -/
@[specialize] def Family.extend (F : Family W) : (more : Nat) → List W → List W
  | 0, words => words
  | more + 1, words =>
    let back := fun i => words.getD (i - 1) (F.ofNat 0)
    F.extend more
      ((back 16 + F.mix F.mix0 (back 15) + back 7 + F.mix F.mix1 (back 2)) :: words)

@[specialize] def Family.schedule (F : Family W) (block : List W) : List W :=
  (F.extend (F.roundConstants.length - 16) block.reverse).reverse

@[specialize] def Family.compress (F : Family W) (s : Chain W) (block : List W) : Chain W :=
  let r := (List.zipWith (· + ·) F.roundConstants (F.schedule block)).foldl F.round s
  ⟨s.a + r.a, s.b + r.b, s.c + r.c, s.d + r.d, s.e + r.e, s.f + r.f, s.g + r.g, s.h + r.h⟩

/-- The message, a one bit, zeros up to a whole number of blocks, and the length in bits. -/
def Family.pad (F : Family W) (message : List UInt8) : List UInt8 :=
  let block := 16 * F.wordBytes
  let used := message.length + 1 + 2 * F.wordBytes
  message ++ 0x80 :: List.replicate ((block - used % block) % block) 0
    ++ bigEndian (2 * F.wordBytes) (8 * message.length)

def Family.words (F : Family W) : (count : Nat) → List UInt8 → List W
  | 0, _ => []
  | count + 1, bytes =>
    F.ofNat (ofBigEndian (bytes.take F.wordBytes)) :: F.words count (bytes.drop F.wordBytes)

@[specialize] def Family.absorb (F : Family W) : (count : Nat) → Chain W → List UInt8 → Chain W
  | 0, s, _ => s
  | count + 1, s, bytes =>
    F.absorb count (F.compress s (F.words 16 bytes)) (bytes.drop (16 * F.wordBytes))

@[specialize] def Family.run (F : Family W) (initial : Chain W) (message : List UInt8) : Chain W :=
  let bytes := F.pad message
  F.absorb (bytes.length / (16 * F.wordBytes)) initial bytes

end

def Family.toBytes {W : Type} (F : Family W) (s : Chain W) : Bytes (8 * F.wordBytes) :=
  ⟨[s.a, s.b, s.c, s.d, s.e, s.f, s.g, s.h].flatMap fun w => bigEndian F.wordBytes (F.toNat w), by
    simp
    omega⟩

end KeyChange.Sha2
