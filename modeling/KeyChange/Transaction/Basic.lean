import KeyChange.Transaction.Authorization
import KeyChange.Hash.Sha256
import KeyChange.Fee
import KeyChange.Rollup.Signature

namespace KeyChange

/-- A part of the rollup. -/
abbrev ChainId := UInt8

abbrev AccountId := UInt32

abbrev SubAccountId := UInt8

abbrev TokenId := UInt16

abbrev Nonce := UInt32

abbrev Timestamp := UInt32

/-- A transaction that gives an account a new key. Its fee is held as an amount and in the two bytes
that stand for it. -/
structure Transaction where
  chain : ChainId
  account : AccountId
  subAccount : SubAccountId
  keyHash : Rollup.KeyHash
  feeToken : TokenId
  fee : Amount
  packedFee : Bytes 2
  nonce : Nonce
  authorization : Authorization
  time : Timestamp
deriving DecidableEq

namespace Transaction

def maxChain : Nat := 31

def maxSubAccount : Nat := 31

/-- Accounts are the leaves of a tree with 24 levels. -/
def maxAccount : Nat := 0xffffff

/-- The account that holds what the contracts hold. It has no key. -/
def globalAccount : Nat := 1

def maxToken : Nat := 65535

def firstReservedToken : Nat := 2

def lastReservedToken : Nat := 16

def nonceLimit : Nat := 0xffffffff

def checkChain (chain : UInt8) : Except FieldError Unit :=
  if maxChain < chain.toNat then .error ⟨"chainId", .exceeds chain.toNat maxChain⟩ else .ok ()

def checkAccount (account : UInt32) : Except FieldError Unit :=
  if maxAccount < account.toNat then .error ⟨"accountId", .exceeds account.toNat maxAccount⟩
  else if account.toNat = globalAccount then .error ⟨"accountId", .globalAccount⟩
  else .ok ()

def checkSubAccount (subAccount : UInt8) : Except FieldError Unit :=
  if maxSubAccount < subAccount.toNat then
    .error ⟨"subAccountId", .exceeds subAccount.toNat maxSubAccount⟩
  else .ok ()

def checkToken (token : UInt32) : Except FieldError TokenId :=
  if maxToken < token.toNat then .error ⟨"feeToken", .exceeds token.toNat maxToken⟩
  else if firstReservedToken ≤ token.toNat ∧ token.toNat ≤ lastReservedToken then
    .error ⟨"feeToken", .reservedToken firstReservedToken lastReservedToken⟩
  else .ok (UInt16.ofNat token.toNat)

def checkNonce (nonce : UInt32) : Except FieldError Unit :=
  if nonceLimit ≤ nonce.toNat then .error ⟨"nonce", .notBelow nonce.toNat nonceLimit⟩ else .ok ()

def authorizedBy (tx : Transaction) (authorization : Authorization) : Transaction :=
  { tx with authorization }

def describeIds (tx : Transaction) : String :=
  "/".intercalate ([tx.chain.toNat, tx.account.toNat, tx.subAccount.toNat, tx.feeToken.toNat,
    tx.nonce.toNat, tx.time.toNat].map toString)

def toJson (tx : Transaction) : Json.Value :=
  .object [("chainId", .number tx.chain.toNat), ("accountId", .number tx.account.toNat),
    ("subAccountId", .number tx.subAccount.toNat), ("newPkHash", .string tx.keyHash.hex),
    ("feeToken", .number tx.feeToken.toNat), ("fee", .string (toString tx.fee.val)),
    ("nonce", .number tx.nonce.toNat), ("ethAuthData", tx.authorization.toJson),
    ("ts", .number tx.time.toNat)]

end Transaction

end KeyChange
