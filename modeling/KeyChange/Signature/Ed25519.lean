import KeyChange.Curve.Edwards
import KeyChange.Hash.Sha512

namespace KeyChange.Ed25519

open Edwards

/-- The scalar of a secret, with the bits fixed that a scalar has fixed, and the other half of its
hash. -/
def expand (secret : Bytes 32) : Nat × List UInt8 :=
  let h := (Sha512.digest secret.toList).toList
  let n := ofLittleEndian (h.take 32)
  (n % 2 ^ (254 : Nat) - n % 8 + 2 ^ (254 : Nat), h.drop 32)

def publicKey (secret : Bytes 32) : Bytes 32 := (Point.base.multiple (expand secret).1).encode

def scalar (message : List UInt8) : Nat :=
  ofLittleEndian (Sha512.digest message).toList % order

/-- The signature of a message: the commitment and the scalar. -/
def sign (secret : Bytes 32) (message : List UInt8) : Bytes 64 :=
  let (a, nonceKey) := expand secret
  let r := scalar (nonceKey ++ message)
  let commitment := (Point.base.multiple r).encode
  let k := scalar (commitment.toList ++ (publicKey secret).toList ++ message)
  let s : Bytes 32 := ⟨littleEndian 32 ((r + k * a) % order), by simp⟩
  commitment ++ s

/-- Strict verification: the scalar has to be reduced, neither the key nor the commitment may have small
order, and the commitment is compared byte by byte. -/
def verify (key : Bytes 32) (message : List UInt8) (signature : Bytes 64) : Bool :=
  let halves : Bytes (32 + 32) := signature
  let commitment := halves.front
  let s := ofLittleEndian halves.back.toList
  match Point.decode? key, Point.decode? commitment with
  | some a, some r =>
    if order ≤ s || r.hasSmallOrder || a.hasSmallOrder then false
    else
      let k := scalar (commitment.toList ++ key.toList ++ message)
      ((Point.base.multiple s).add (a.negate.multiple k)).encode = commitment
  | _, _ => false

end KeyChange.Ed25519
