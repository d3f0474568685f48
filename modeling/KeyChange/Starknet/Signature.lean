import KeyChange.Starknet.Felt
import KeyChange.Signature.Text

namespace KeyChange.Starknet

open Stark

/-- A signature with the public key of its signer. -/
structure Signature where
  publicKey : Felt
  r : Felt
  s : Felt
deriving DecidableEq

namespace Signature

def size : Nat := 96

def toList (x : Signature) : List UInt8 :=
  (Felt.toBytes x.publicKey).toList ++ (Felt.toBytes x.r).toList ++ (Felt.toBytes x.s).toList

def ofList (bytes : List UInt8) : Except SignatureFault Signature :=
  if bytes.length ≠ size then .error (.length size bytes.length)
  else
    match Felt.ofList? (bytes.take 32), Felt.ofList? ((bytes.drop 32).take 32),
      Felt.ofList? (bytes.drop 64) with
    | some publicKey, some r, some s => .ok ⟨publicKey, r, s⟩
    | _, _, _ => .error .aboveModulus

def hex (x : Signature) : String := Hex.prefixed x.toList

def ofHex (s : String) : Except SignatureFault Signature :=
  match signatureBytes s with
  | .error fault => .error fault
  | .ok bytes => ofList bytes

def read : Json.Reader Signature := Json.readText fun s => (ofHex s).mapError (·.message)

/-- Whether the signature over a hash belongs to the key that comes with it. -/
def verify (x : Signature) (hash : Felt) : Bool := StarkEcdsa.verify x.publicKey hash x.r x.s

end Signature

end KeyChange.Starknet
