import KeyChange.Transaction.Layout
import KeyChange.Rollup.Signature
import KeyChange.Owner.Chain

namespace KeyChange

/-- All that is needed to check a signed transaction: its bytes, the signature of the rollup key, and
what the owner's authorization leaves behind. -/
structure Bundle where
  payload : List UInt8
  signature : Rollup.Signature
  ownerSignature : Option Owner.Signature
  create2 : Option Create2
deriving DecidableEq

namespace Bundle

def compose (payload : List UInt8) (signature : Rollup.Signature)
    (ownerSignature : Option Owner.Signature) : Bundle :=
  ⟨payload, signature, ownerSignature, none⟩

def withCreate2 (b : Bundle) (data : Create2) : Bundle := { b with create2 := some data }

def conflict : FieldError := ⟨"layer1Signature", .conflictingAuthorization⟩

/-- The authorization that the bundle shows. It cannot show two. -/
def authorization (b : Bundle) : Except FieldError Authorization :=
  match b.create2, b.ownerSignature with
  | some _, some _ => .error conflict
  | some data, none => .ok (.create2 data)
  | none, some x => .ok (.signed x)
  | none, none => .ok .onchain

/-- The transaction that was signed, with its authorization. -/
def decode (b : Bundle) : Except Error Transaction :=
  match Transaction.decode b.payload with
  | .error fault => .error (.encoding fault)
  | .ok tx =>
    match b.authorization with
    | .error e => .error (.validation e)
    | .ok authorization => .ok (tx.authorizedBy authorization)

/-- Whether the bytes were signed by the key that comes with the signature. -/
def isSigned (b : Bundle) : Bool := b.signature.verify b.payload

/-- Whether the key that signed is the one that the transaction gives to the account. -/
def bindsKey (b : Bundle) : Bool :=
  match Transaction.decode b.payload with
  | .error _ => false
  | .ok tx => decide (tx.keyHash = b.signature.publicKey.hash)

/-- Whether the owner's signature approves the transaction and comes from the one expected. -/
def isApproved (b : Bundle) (chain : Owner.Chain) (identity : Owner.Identity) :
    Except Error Bool :=
  match Transaction.decode b.payload with
  | .error fault => .error (.encoding fault)
  | .ok tx =>
    match chain.approval tx.keyHash tx.nonce tx.account with
    | .error e => .error (.validation e)
    | .ok approval =>
      match b.ownerSignature with
      | none => .ok false
      | some x => .ok (x.verify approval.digest identity)

def hash (b : Bundle) : Bytes 32 := Sha256.digest b.payload

def toJson (b : Bundle) : Json.Value :=
  .object ([("tx", .string (Hex.prefixed b.payload)), ("signature", b.signature.toJson)]
    ++ (match b.ownerSignature with
      | none => []
      | some x => [("layer1Signature", x.toJson)])
    ++ (match b.create2 with
      | none => []
      | some data => [("create2Data", data.toJson)]))

def render (b : Bundle) : String := b.toJson.render

def fields : List Json.Field := [
  .required "tx" readPrefixedList, .required "signature" Rollup.Signature.read,
  .optional "layer1Signature" Owner.Signature.read, .optional "create2Data" Create2.read]

def read : Json.Reader Bundle := fun o d => do
  let r ← Json.readRecord "struct TxSignature" fields o d
  return {
    payload := ← r.get "tx" readPrefixedList
    signature := ← r.get "signature" Rollup.Signature.read
    ownerSignature := ← r.get? "layer1Signature" Owner.Signature.read
    create2 := ← r.get? "create2Data" Create2.read }

def parse (text : String) : Except Error Bundle :=
  match Json.readFrom read text with
  | .error e => .error (.json e)
  | .ok b =>
    if b.create2.isSome ∧ b.ownerSignature.isSome then .error (.validation conflict) else .ok b

end Bundle

end KeyChange
