import KeyChange.Curve.Secp256k1
import KeyChange.Hash.Hmac

namespace KeyChange.Recoverable

open Curve Secp256k1

/-- A signature with the parity of the ordinate of its point. -/
structure Signature where
  r : Nat
  s : Nat
  isOdd : Bool
deriving DecidableEq

/-- How many nonces a signature tries. One that is refused is as rare as a broken key. -/
def draws : Nat := 256

/-- The nonce of a key and a digest. Here the digest counts as it stands. -/
def nonce? (secret : Nat) (digest : Bytes 32) : Option Nat :=
  (Hmac.Generator.ofSeed (bigEndian 32 secret ++ digest.toList)).firstAccepted
    (fun k => if 0 < k ∧ k < order then some k else none) draws

/-- The signature of a digest with a nonce. The number of the digest counts modulo the order of the
group. -/
def signWith? (secret : Nat) (digest : Bytes 32) (k : Nat) : Option Signature :=
  match curve.baseMultiple k with
  | none => none
  | some (x, y) =>
    let z := digest.toNat % order
    let r := x.val % order
    let s := (inverse (residue k : Fin order)).val * (z + r * secret) % order
    if r = 0 ∨ s = 0 then none
    else
      let isHigh := order / 2 < s
      some ⟨r, if isHigh then order - s else s, (y.val % 2 = 1) ^^ isHigh⟩

def sign? (secret : Nat) (digest : Bytes 32) : Option Signature :=
  (nonce? secret digest).bind (signWith? secret digest)

/-- The public key that signed a digest. A second number in the upper half stands for its
complement and the other parity. -/
def recover? (signature : Signature) (digest : Bytes 32) : Point modulus :=
  let ⟨r, s, isOdd⟩ := signature
  if r = 0 ∨ order ≤ r ∨ s = 0 ∨ order ≤ s then none
  else
    let isHigh := order / 2 < s
    let s := if isHigh then order - s else s
    match lift? (residue r) (isOdd ^^ isHigh) with
    | none => none
    | some point =>
      let z := digest.toNat % order
      let inverse := (inverse (residue r : Fin order)).val
      curve.combination none [
        ((order - z) * inverse % order, some curve.base), (s * inverse % order, some point)]

def publicKey? (secret : Nat) : Point modulus := curve.baseMultiple secret

end KeyChange.Recoverable
