import KeyChange.Ethereum.Signature
import KeyChange.Secret

namespace KeyChange.Ethereum

/-- What is hashed of a personal message: a fixed text, the length in bytes, and the message. -/
def payload (message : List UInt8) : List UInt8 :=
  utf8 "\x19Ethereum Signed Message:\n" ++ utf8 (toString message.length) ++ message

def messageDigest (message : List UInt8) : Bytes 32 := Keccak.digest (payload message)

structure Key where
  secret : Nat
  address : Address

namespace Key

/-- The key of 32 bytes, whose number has to lie between zero and the order of the group. -/
def ofBytes (bytes : Bytes 32) : Except KeyFault Key :=
  let secret := bytes.toNat
  if secret = 0 ∨ Secp256k1.order ≤ secret then .error .notEthereumKey
  else
    match Recoverable.publicKey? secret with
    | none => .error .notEthereumKey
    | some (x, y) => .ok ⟨secret, Address.ofPublicKey x y⟩

def parse (s : String) : Except KeyFault Key :=
  match Secret.parse s with
  | .error fault => .error fault
  | .ok bytes => ofBytes bytes

def sign (key : Key) (digest : Bytes 32) : Except SigningFault Signature :=
  (Recoverable.sign? key.secret digest).elim (.error .noSignature) fun x =>
    .ok ⟨Bytes.ofNat 32 x.r, Bytes.ofNat 32 x.s, ⟨x.isOdd, true⟩⟩

def signMessage (key : Key) (message : List UInt8) : Except SigningFault Signature :=
  key.sign (messageDigest message)

/-- The key as a message shows it: its address alone. -/
def describe (key : Key) : String := "EthSigner \x7b address: " ++ key.address.hex ++ ", .. \x7d"

end Key

end KeyChange.Ethereum
