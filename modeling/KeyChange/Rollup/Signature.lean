import KeyChange.Ethereum.Address
import KeyChange.Signature.Text
import KeyChange.Signature.Ed25519
import KeyChange.Json.Value

namespace KeyChange.Rollup

/-- What a transaction knows a key by. -/
abbrev KeyHash := Bytes 20

abbrev PublicKey := Bytes 32

namespace KeyHash

def size : Nat := 20

def ofHex (field s : String) : Except FieldError KeyHash := do
  let bytes ← Hex.decodeField field s
  match Bytes.ofList? size bytes with
  | none => .error ⟨field, .length size bytes.length⟩
  | some hash => .ok hash

def read : Json.Reader KeyHash := readPrefixedBytes 20

end KeyHash

namespace PublicKey

def hash (key : PublicKey) : KeyHash := lastTwenty (Keccak.digest key.toList)

def read : Json.Reader PublicKey := readPrefixedBytes 32

end PublicKey

/-- A signature with the key that made it. -/
structure Signature where
  publicKey : PublicKey
  signature : Bytes 64
deriving DecidableEq

namespace Signature

def size : Nat := 96

def toList (x : Signature) : List UInt8 := x.publicKey.toList ++ x.signature.toList

def ofList (bytes : List UInt8) : Except SignatureFault Signature :=
  if h : bytes.length = size then
    have h : bytes.length = 96 := h
    .ok ⟨⟨bytes.take 32, by simp [h]⟩, ⟨bytes.drop 32, by simp [h]⟩⟩
  else .error (.length size bytes.length)

def hex (x : Signature) : String := Hex.prefixed x.toList

def ofHex (s : String) : Except SignatureFault Signature :=
  match signatureBytes s with
  | .error fault => .error fault
  | .ok bytes => ofList bytes

/-- Whether the message was signed by the key that comes with the signature. -/
def verify (x : Signature) (message : List UInt8) : Bool :=
  Ed25519.verify x.publicKey message x.signature

def toJson (x : Signature) : Json.Value :=
  .object [("pubKey", .string x.publicKey.hex), ("signature", .string x.signature.hex)]

def fields : List Json.Field :=
  [.required "pubKey" PublicKey.read, .required "signature" (readPrefixedBytes 64)]

def read : Json.Reader Signature := fun o d => do
  let r ← Json.readRecord "struct ZkLinkSignature" fields o d
  return ⟨← r.get "pubKey" PublicKey.read, ← r.get "signature" (readPrefixedBytes 64)⟩

def describe (x : Signature) : String :=
  "ZkLinkSignature \x7b pub_key: " ++ x.publicKey.hex ++ ", signature: " ++ x.signature.hex
    ++ " \x7d"

end Signature

end KeyChange.Rollup
