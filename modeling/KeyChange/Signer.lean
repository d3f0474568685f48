import KeyChange.Bundle
import KeyChange.Rollup.Key

namespace KeyChange

inductive OwnerKey
  | ethereum (key : Ethereum.Key)
  | starknet (key : Starknet.Key) (chainId address : String)

namespace OwnerKey

def chain : OwnerKey → Owner.Chain
  | .ethereum _ => .ethereum
  | .starknet _ chainId address => .starknet chainId address

def identity : OwnerKey → Owner.Identity
  | .ethereum key => .ethereum key.address
  | .starknet key _ _ => .starknet key.publicKey

def sign (key : OwnerKey) (digest : Bytes 32) : Except SigningFault Owner.Signature :=
  match key with
  | .ethereum key => (key.sign digest).map .ethereum
  | .starknet key _ _ => (key.sign (Stark.Felt.reduce digest.toList)).map .starknet

/-- The signature of a text, as texts are signed on the owner's chain. -/
def signText (key : OwnerKey) (text : String) : Except Error Owner.Signature :=
  match key with
  | .ethereum key => ((key.signMessage (utf8 text)).map .ethereum).mapError .signing
  | .starknet key chainId address => do
    let hash ← (Starknet.accountMessageHash chainId address (utf8 text)).mapError .validation
    ((key.sign hash).map .starknet).mapError .signing

def hasSchemeOf (key : OwnerKey) (x : Owner.Signature) : Bool :=
  match key, x with
  | .ethereum _, .ethereum _ => true
  | .starknet _ _ _, .starknet _ => true
  | _, _ => false

def describe : OwnerKey → String
  | .ethereum key => "Eth(" ++ key.describe ++ ")"
  | .starknet key _ _ => "Starknet(" ++ key.describe ++ ")"

end OwnerKey

/-- The owner's key of an account and the rollup key derived from it. -/
structure Signer where
  rollup : Rollup.Key
  owner : OwnerKey

namespace Signer

def new (secret : String) (chain : Owner.Chain) : Except Error Signer :=
  match chain.validate with
  | .error e => .error (.validation e)
  | .ok _ =>
    match chain with
    | .ethereum =>
      match Ethereum.Key.parse secret with
      | .error fault => .error (.key fault)
      | .ok key => (Rollup.Key.ofEthereumKey key).map fun rollup => ⟨rollup, .ethereum key⟩
    | .starknet chainId address =>
      match Starknet.Key.parse secret with
      | .error fault => .error (.key fault)
      | .ok key =>
        (Rollup.Key.ofStarknetKey key).map fun rollup => ⟨rollup, .starknet key chainId address⟩

def publicKey (s : Signer) : Rollup.PublicKey := s.rollup.publicKey

def keyHash (s : Signer) : Rollup.KeyHash := s.publicKey.hash

def chain (s : Signer) : Owner.Chain := s.owner.chain

def identity (s : Signer) : Owner.Identity := s.owner.identity

/-- The bundle of a transaction, signed with the rollup key. -/
def compose (s : Signer) (tx : Transaction) (ownerSignature : Option Owner.Signature) : Bundle :=
  Bundle.compose tx.encode (s.rollup.sign tx.encode) ownerSignature

/-- Signs a transaction that is authorized on the owner's chain. One that carries a signature is
refused. -/
def signOnchain (s : Signer) (tx : Transaction) : Except Error Bundle :=
  match tx.authorization.signature? with
  | some _ => .error (.signing .carriesSignature)
  | none => .ok (s.compose (tx.authorizedBy .onchain) none)

/-- The owner's signature for a transaction: the one that it carries, if it is of the signer's
scheme, or else a new one of the approval. -/
def ownerSignature (s : Signer) (tx : Transaction) : Except Error Owner.Signature :=
  match tx.authorization.signature? with
  | some x => if s.owner.hasSchemeOf x then .ok x else .error (.signing .otherScheme)
  | none =>
    if tx.authorization.isCreate2 then .error (.signing .carriesCreate2)
    else
      match s.chain.approval tx.keyHash tx.nonce tx.account with
      | .error e => .error (.validation e)
      | .ok approval => (s.owner.sign approval.digest).mapError .signing

/-- Signs a transaction that the owner approves with a signature. -/
def signApproved (s : Signer) (tx : Transaction) : Except Error Bundle :=
  match s.ownerSignature tx with
  | .error e => .error e
  | .ok x => .ok (s.compose (tx.authorizedBy (.signed x)) (some x))

/-- Signs a transaction of an account whose address is bound to the key. -/
def signCreate2 (s : Signer) (tx : Transaction) (data : Create2) (account : Ethereum.Address) :
    Except Error Bundle :=
  let derived := data.address tx.keyHash.toList
  if derived ≠ account then .error (.validation ⟨"create2Data", .otherAddress derived account⟩)
  else .ok ((s.compose (tx.authorizedBy (.create2 data)) none).withCreate2 data)

/-- The signer as a message shows it, without its secrets. -/
def describe (s : Signer) : String :=
  "Signer \x7b zklink_signer: " ++ s.rollup.describe ++ ", layer1_signer: " ++ s.owner.describe
    ++ ", l1_type: " ++ s.chain.describe ++ " \x7d"

end Signer

end KeyChange
