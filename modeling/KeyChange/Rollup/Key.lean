import KeyChange.Rollup.Signature
import KeyChange.Ethereum.Key
import KeyChange.Starknet.Key

namespace KeyChange.Rollup

structure Key where
  secret : Bytes 32
  publicKey : PublicKey
  publicKey_eq : publicKey = Ed25519.publicKey secret := by rfl

namespace Key

/-- The message that an owner signs to derive a key. -/
def derivationMessage : String :=
  "Sign this message to create a key to interact with zkLink's layer2 services.\n"
    ++ "NOTE: This application is powered by zkLink protocol.\n\n"
    ++ "Only sign this message for a trusted client!"

def leastSeed : Nat := 32

def ofSecret (secret : Bytes 32) : Key := { secret, publicKey := Ed25519.publicKey secret }

def ofList (bytes : List UInt8) : Except KeyFault Key :=
  match Bytes.ofList? 32 bytes with
  | none => .error (.length 32 bytes.length)
  | some secret => .ok (ofSecret secret)

/-- The key whose secret is a seed hashed twice. -/
def ofSeed (seed : List UInt8) : Except KeyFault Key :=
  if seed.length < leastSeed then .error (.shortSeed leastSeed seed.length)
  else .ok (ofSecret (Sha256.digest (Sha256.digest seed).toList))

def ofEthereumKey (key : Ethereum.Key) : Except Error Key :=
  match key.signMessage (utf8 derivationMessage) with
  | .error fault => .error (.signing fault)
  | .ok signature => (ofSeed signature.toList).mapError .key

def ofStarknetKey (key : Starknet.Key) : Except Error Key :=
  match key.signMessage (utf8 derivationMessage) with
  | .error fault => .error (.signing fault)
  | .ok signature => (ofSeed signature.toList).mapError .key

def ofEthereumText (s : String) : Except Error Key :=
  match Ethereum.Key.parse s with
  | .error fault => .error (.key fault)
  | .ok key => ofEthereumKey key

def keyHash (key : Key) : KeyHash := key.publicKey.hash

def sign (key : Key) (message : List UInt8) : Signature :=
  ⟨key.publicKey, Ed25519.sign key.secret message⟩

/-- The key as a message shows it: its public key alone. -/
def describe (key : Key) : String :=
  "ZkLinkSigner \x7b public_key: " ++ key.publicKey.hex ++ ", .. \x7d"

end Key

end KeyChange.Rollup
