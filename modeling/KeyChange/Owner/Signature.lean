import KeyChange.Ethereum.Signature
import KeyChange.Starknet.Signature
import KeyChange.Json.Value

namespace KeyChange.Owner

/-- Who is expected to have signed. -/
inductive Identity
  | ethereum (address : Ethereum.Address)
  | starknet (publicKey : Stark.Felt)
deriving DecidableEq

inductive Signature
  | ethereum (signature : Ethereum.Signature)
  | starknet (signature : Starknet.Signature)
deriving DecidableEq

namespace Signature

def toList : Signature → List UInt8
  | .ethereum x => x.toList
  | .starknet x => x.toList

def hex (x : Signature) : String := Hex.prefixed x.toList

/-- Whether the digest was signed by the one expected, who has to be of the signature's chain. -/
def verify (x : Signature) (digest : Bytes 32) (identity : Identity) : Bool :=
  match x, identity with
  | .ethereum x, .ethereum address =>
    match x.recover digest with
    | .ok recovered => decide (recovered = address)
    | .error _ => false
  | .starknet x, .starknet publicKey =>
    decide (x.publicKey = publicKey) && x.verify (Stark.Felt.reduce digest.toList)
  | _, _ => false

def schemes : List String := ["EthereumSignature", "StarkSignature"]

def toJson : Signature → Json.Value
  | .ethereum x => .object [("type", .string "EthereumSignature"), ("signature", .string x.hex)]
  | .starknet x => .object [("type", .string "StarkSignature"), ("signature", .string x.hex)]

def readContent (scheme : String) : Json.Reader Signature := fun o d =>
  if scheme = "EthereumSignature" then (Ethereum.Signature.read o d).map .ethereum
  else (Starknet.Signature.read o d).map .starknet

def read : Json.Reader Signature :=
  Json.readAdjacent "TxLayer1Signature" "type" "signature" schemes readContent

def describe : Signature → String
  | .ethereum x => "EthereumSignature(" ++ x.hex ++ ")"
  | .starknet x => "StarkSignature(" ++ x.hex ++ ")"

end Signature

end KeyChange.Owner
