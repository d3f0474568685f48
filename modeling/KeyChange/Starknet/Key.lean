import KeyChange.Starknet.Signature
import KeyChange.Starknet.Message
import KeyChange.Secret

namespace KeyChange.Starknet

open Stark

structure Key where
  secret : Nat
  publicKey : Felt

namespace Key

/-- The key of a text, whose number has to lie between zero and the order of the group. -/
def parse (s : String) : Except KeyFault Key :=
  match Secret.parse s with
  | .error fault => .error fault
  | .ok bytes =>
    let secret := bytes.toNat
    if secret = 0 ∨ Stark.order ≤ secret then .error .notStarknetKey
    else .ok ⟨secret, StarkEcdsa.publicKey secret⟩

def sign (key : Key) (hash : Felt) : Except SigningFault Signature :=
  ((StarkEcdsa.sign key.secret hash).map fun (r, s) => ⟨key.publicKey, r, s⟩).mapError .starknet

def signMessage (key : Key) (message : List UInt8) : Except SigningFault Signature :=
  key.sign (messageHash message)

/-- The key as a message shows it. -/
def describe (_ : Key) : String := "**StarkSigner**"

end Key

end KeyChange.Starknet
