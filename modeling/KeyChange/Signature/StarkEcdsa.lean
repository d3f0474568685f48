import KeyChange.Curve.Stark
import KeyChange.Hash.Hmac
import KeyChange.Bytes

namespace KeyChange.StarkEcdsa

open Curve Stark

/-- Hashes and the numbers of a signature are below this. -/
def bound : Nat := 2 ^ (251 : Nat)

inductive Fault
  | invalidMessageHash
  | invalidNonce
deriving DecidableEq

/-- How many nonces a signature draws. Each draw is kept about every other time. -/
def draws : Nat := 256

/-- The nonce of a key and a hash: the first draw, without its lowest four bits, that is a
scalar. -/
def nonce? (secret : Nat) (hash : Felt) : Option Nat :=
  (Hmac.Generator.ofSeed (bigEndian 32 secret ++ bigEndian 32 hash.val)).firstAccepted
    (fun n => if 0 < n / 16 ∧ n / 16 < order then some (n / 16) else none) draws

def isAdmissible (n : Nat) : Bool := 0 < n && n < bound

def signWith (secret : Nat) (hash : Felt) (k : Nat) : Except Fault (Felt × Felt) :=
  if bound ≤ hash.val then .error .invalidMessageHash
  else
    match curve.baseMultiple k with
    | none => .error .invalidNonce
    | some (r, _) =>
      let s := (inverse (residue k : Fin order)).val * (r.val * secret + hash.val) % order
      if isAdmissible r.val && isAdmissible s then .ok (r, residue s) else .error .invalidNonce

def sign (secret : Nat) (hash : Felt) : Except Fault (Felt × Felt) :=
  match nonce? secret hash with
  | some k => signWith secret hash k
  | none => if bound ≤ hash.val then .error .invalidMessageHash else .error .invalidNonce

def hasAbscissa (x : Felt) (p : Point modulus) : Bool :=
  match p with
  | some (x', _) => decide (x' = x)
  | none => false

/-- Whether a signature belongs to a public key, whichever of the two points the key means. -/
def verify (publicKey hash r s : Felt) : Bool :=
  if bound ≤ hash.val || !isAdmissible r.val || !isAdmissible s.val then false
  else
    match lift? publicKey with
    | none => false
    | some (x, y) =>
      let w := (inverse (residue s.val : Fin order)).val
      let sum := fun (point : Felt × Felt) => curve.combination none [
        (hash.val * w % order, some curve.base), (r.val * w % order, some point)]
      isAdmissible w && (hasAbscissa r (sum (x, y)) || hasAbscissa r (sum (x, 0 - y)))

/-- A public key is an abscissa alone. -/
def publicKey (secret : Nat) : Felt :=
  match curve.baseMultiple secret with
  | some (x, _) => x
  | none => 0

end KeyChange.StarkEcdsa
