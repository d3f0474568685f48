import KeyChange.Starknet.Message
import KeyChange.Ethereum.Key
import KeyChange.Rollup.Signature

namespace KeyChange.Owner

/-- A chain, with what its messages are bound to. -/
inductive Chain
  | ethereum
  | starknet (chainId address : String)
deriving DecidableEq

/-- What the owner signs: a text that names the new key, the nonce and the account, or the digest that
stands for it. -/
structure Approval where
  text : String
  digest : Bytes 32
deriving DecidableEq

/-- The text that names a new key, a nonce and an account. -/
def approvalText (keyHash : Rollup.KeyHash) (nonce account : UInt32) : String :=
  "ChangePubKey\nPubKeyHash: " ++ keyHash.hex ++ "\nNonce: " ++ toString nonce.toNat
    ++ "\nAccountId: " ++ toString account.toNat

namespace Chain

/-- Refuses parameters that cannot be part of a message. -/
def validate : Chain → Except FieldError Unit
  | .ethereum => .ok ()
  | .starknet chainId address =>
    match Stark.Felt.ofShortString "chainId" chainId with
    | .error e => .error e
    | .ok _ => (Stark.Felt.ofHex "address" address).map fun _ => ()

def digest (chain : Chain) (text : String) : Except FieldError (Bytes 32) :=
  match chain with
  | .ethereum => .ok (Ethereum.messageDigest (utf8 text))
  | .starknet chainId address =>
    (Starknet.accountMessageHash chainId address (utf8 text)).map Stark.Felt.toBytes

def approval (chain : Chain) (keyHash : Rollup.KeyHash) (nonce account : UInt32) :
    Except FieldError Approval :=
  let text := approvalText keyHash nonce account
  (chain.digest text).map fun digest => ⟨text, digest⟩

def toJson : Chain → Json.Value
  | .ethereum => .object [("type", .string "Eth")]
  | .starknet chainId address =>
    .object [("type", .string "Starknet"), ("chainId", .string chainId),
      ("address", .string address)]

def names : List String := ["Eth", "Starknet"]

def starknetFields : List Json.Field :=
  [.required "chainId" Json.readString, .required "address" Json.readString]

def read : Json.Reader Chain := fun o d => do
  let (name, d) ← Json.readTagged "L1SignerType" "type" names o d
  if name = "Eth" then
    Json.readNoFields d
    return .ethereum
  else
    let r ← Json.readRecord "struct variant L1SignerType::Starknet" starknetFields .buffer d
    return .starknet (← r.get "chainId" Json.readString) (← r.get "address" Json.readString)

def describe : Chain → String
  | .ethereum => "Eth"
  | .starknet chainId address =>
    "Starknet \x7b chain_id: " ++ Text.quoted chainId ++ ", address: " ++ Text.quoted address
      ++ " \x7d"

end Chain

end KeyChange.Owner
