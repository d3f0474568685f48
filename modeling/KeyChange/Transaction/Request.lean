import KeyChange.Transaction.Basic

namespace KeyChange

/-- What a caller asks a transaction to be, unchecked. -/
structure Request where
  chain : UInt8
  account : UInt32
  subAccount : UInt8
  keyHash : String
  feeToken : UInt32
  fee : String
  nonce : UInt32
  ownerSignature : Option String
  time : UInt64
deriving DecidableEq

namespace Request

def decimal? (s : String) : Option Nat :=
  let cs := s.toList
  if cs ≠ [] ∧ cs.all Json.isDigit then
    some (cs.foldl (fun n c => n * 10 + Json.Number.digitValue c) 0)
  else none

/-- The amount of a fee and the two bytes that stand for exactly that amount. -/
def parseFee (s : String) : Except FieldError (Amount × Bytes 2) :=
  match decimal? s with
  | none => .error ⟨"fee", .notDecimal⟩
  | some n =>
    if h : n < 2 ^ (128 : Nat) then
      let fee : Amount := ⟨n, h⟩
      if Fee.maximum < n then .error ⟨"fee", .abovePackable n Fee.maximum⟩
      else
        match Fee.pack fee with
        | .error fault => .error ⟨"fee", .packing fault⟩
        | .ok packed =>
          if Fee.unpack packed.toList = some fee then .ok (fee, packed)
          else .error ⟨"fee", .notRepresentable n⟩
    else .error ⟨"fee", .tooWide 128⟩

/-- The signature that a text spells; its length tells the scheme. -/
def parseSignature (s : String) : Except FieldError Owner.Signature := do
  let bytes ← Hex.decodeField "layer1Signature" s
  if bytes.length = Ethereum.Signature.size then
    match Ethereum.Signature.ofList bytes with
    | .error fault => .error ⟨"layer1Signature", .signature fault⟩
    | .ok x => .ok (.ethereum x)
  else if bytes.length = Starknet.Signature.size then
    match Starknet.Signature.ofList bytes with
    | .error fault => .error ⟨"layer1Signature", .signature fault⟩
    | .ok x => .ok (.starknet x)
  else .error ⟨"layer1Signature", .signatureLength bytes.length⟩

def parseAuthorization : Option String → Except FieldError Authorization
  | none => .ok .onchain
  | some s => (parseSignature s).map .signed

def parseTime (time : UInt64) : Except FieldError Timestamp :=
  if time.toNat < UInt32.size then .ok time.toUInt32 else .error ⟨"timestamp", .tooWide 32⟩

/-- The transaction that is asked for. The first field whose value is refused is the error. -/
def build (r : Request) : Except FieldError Transaction := do
  Transaction.checkChain r.chain
  Transaction.checkAccount r.account
  Transaction.checkSubAccount r.subAccount
  let keyHash ← Rollup.KeyHash.ofHex "newPkHash" r.keyHash
  let feeToken ← Transaction.checkToken r.feeToken
  let (fee, packedFee) ← parseFee r.fee
  Transaction.checkNonce r.nonce
  let time ← parseTime r.time
  let authorization ← parseAuthorization r.ownerSignature
  return {
    chain := r.chain, account := r.account, subAccount := r.subAccount, nonce := r.nonce
    keyHash, feeToken, fee, packedFee, time, authorization }

def toJson (r : Request) : Json.Value :=
  .object ([("chainId", .number r.chain.toNat), ("accountId", .number r.account.toNat),
    ("subAccountId", .number r.subAccount.toNat), ("newPkHash", .string r.keyHash),
    ("feeToken", .number r.feeToken.toNat), ("fee", .string r.fee),
    ("nonce", .number r.nonce.toNat)]
    ++ (match r.ownerSignature with
      | none => []
      | some s => [("layer1Signature", Json.Value.string s)])
    ++ [("timestamp", .number r.time.toNat)])

def fields : List Json.Field := [
  .required "chainId" Json.readUInt8, .required "accountId" Json.readUInt32,
  .required "subAccountId" Json.readUInt8, .required "newPkHash" Json.readString,
  .required "feeToken" Json.readUInt32, .required "fee" Json.readString,
  .required "nonce" Json.readUInt32, .optional "layer1Signature" Json.readString,
  .required "timestamp" Json.readUInt64]

def read : Json.Reader Request := fun o d => do
  let r ← Json.readRecord "struct ChangePubKeyRequest" fields o d
  return {
    chain := ← r.get "chainId" Json.readUInt8
    account := ← r.get "accountId" Json.readUInt32
    subAccount := ← r.get "subAccountId" Json.readUInt8
    keyHash := ← r.get "newPkHash" Json.readString
    feeToken := ← r.get "feeToken" Json.readUInt32
    fee := ← r.get "fee" Json.readString
    nonce := ← r.get "nonce" Json.readUInt32
    ownerSignature := ← r.get? "layer1Signature" Json.readString
    time := ← r.get "timestamp" Json.readUInt64 }

end Request

end KeyChange
