import KeyChange.Transaction.Basic

namespace KeyChange.Transaction

def size : Nat := 39

/-- What tells this kind of transaction from others. -/
def typeByte : UInt8 := 6

/-- What the rollup key signs. Every field has its place and width, and the authorization is left out. -/
def encode (tx : Transaction) : List UInt8 :=
  typeByte :: bigEndian 1 tx.chain.toNat ++ bigEndian 4 tx.account.toNat
    ++ bigEndian 1 tx.subAccount.toNat ++ tx.keyHash.toList ++ bigEndian 2 tx.feeToken.toNat
    ++ tx.packedFee.toList ++ bigEndian 4 tx.nonce.toNat ++ bigEndian 4 tx.time.toNat

def hash (tx : Transaction) : Bytes 32 := Sha256.digest tx.encode

/-- The bytes from `offset` on, `width` of them. -/
def slice (bytes : List UInt8) (offset width : Nat) : List UInt8 := (bytes.drop offset).take width

theorem length_slice {bytes : List UInt8} {offset width : Nat}
    (h : offset + width ≤ bytes.length) : (slice bytes offset width).length = width := by
  simp [slice]
  omega

def part (bytes : List UInt8) (offset width : Nat) (h : offset + width ≤ bytes.length) :
    Bytes width :=
  ⟨slice bytes offset width, length_slice h⟩

/-- What stands at the places of the fields. -/
structure Fields where
  chain : Bytes 1
  account : Bytes 4
  subAccount : Bytes 1
  keyHash : Rollup.KeyHash
  feeToken : Bytes 2
  packedFee : Bytes 2
  nonce : Bytes 4
  time : Bytes 4

/-- The values that the fields spell, whatever they are. -/
def Fields.values (f : Fields) (fee : Amount) : Transaction where
  chain := UInt8.ofNat f.chain.toNat
  account := UInt32.ofNat f.account.toNat
  subAccount := UInt8.ofNat f.subAccount.toNat
  keyHash := f.keyHash
  feeToken := UInt16.ofNat f.feeToken.toNat
  fee := fee
  packedFee := f.packedFee
  nonce := UInt32.ofNat f.nonce.toNat
  authorization := .onchain
  time := UInt32.ofNat f.time.toNat

/-- The values, once they are in range. -/
def Fields.decode (f : Fields) : Except EncodingFault Transaction := do
  (checkChain (UInt8.ofNat f.chain.toNat)).mapError .field
  (checkAccount (UInt32.ofNat f.account.toNat)).mapError .field
  (checkSubAccount (UInt8.ofNat f.subAccount.toNat)).mapError .field
  let _ ← (checkToken (UInt16.ofNat f.feeToken.toNat).toUInt32).mapError EncodingFault.field
  (checkNonce (UInt32.ofNat f.nonce.toNat)).mapError .field
  match Fee.unpack f.packedFee.toList with
  | none => .error .feeOverflow
  | some fee => return f.values fee

/-- A reader at a position. There is nothing past the end of the bytes. -/
abbrev Reader := StateT Nat Option

namespace Reader

variable {α : Type} {bytes : List UInt8} {width position : Nat}

def take (bytes : List UInt8) (width : Nat) : Reader (Bytes width) := fun position =>
  if h : position + width ≤ bytes.length then
    some (part bytes position width h, position + width)
  else none

def fields (bytes : List UInt8) : Reader Fields := do
  let chain ← take bytes 1
  let account ← take bytes 4
  let subAccount ← take bytes 1
  let keyHash ← take bytes 20
  let feeToken ← take bytes 2
  let packedFee ← take bytes 2
  let nonce ← take bytes 4
  let time ← take bytes 4
  return { chain, account, subAccount, keyHash, feeToken, packedFee, nonce, time }

theorem take_bind {f : Bytes width → Reader α} (h : position + width ≤ bytes.length) :
    (take bytes width >>= f) position = f (part bytes position width h) (position + width) := by
  simp [bind, StateT.bind, take, h]

end Reader

def fieldsOf (bytes : List UInt8) (h : bytes.length = size) : Fields where
  chain := part bytes 1 1 (by rw [h]; decide)
  account := part bytes 2 4 (by rw [h]; decide)
  subAccount := part bytes 6 1 (by rw [h]; decide)
  keyHash := part bytes 7 20 (by rw [h]; decide)
  feeToken := part bytes 27 2 (by rw [h]; decide)
  packedFee := part bytes 29 2 (by rw [h]; decide)
  nonce := part bytes 31 4 (by rw [h]; decide)
  time := part bytes 35 4 (by rw [h]; decide)

theorem Reader.fields_eq {bytes : List UInt8} (h : bytes.length = size) :
    fields bytes 1 = some (fieldsOf bytes h, size) := by
  have hlen : bytes.length = 39 := h
  simp (disch := omega) only [fields, take_bind]
  rfl

/-- The transaction of 39 bytes, with no authorization but that of the owner's chain. Nothing is given where
the reader is asked for more than there is. -/
def read? (bytes : List UInt8) : Option (Except EncodingFault Transaction) :=
  if bytes.length = size then do
    let type ← bytes.head?
    if type = typeByte then
      let (fields, _) ← Reader.fields bytes 1
      return fields.decode
    else return .error (.typeByte type)
  else return .error (.length size bytes.length)

theorem read?_of_length_ne {bytes : List UInt8} (h : bytes.length ≠ size) :
    read? bytes = some (.error (.length size bytes.length)) :=
  if_neg h

theorem head?_eq_headD {bytes : List UInt8} (h : bytes.length = size) :
    bytes.head? = some (bytes.headD 0) := by
  cases bytes with
  | nil => simp [size] at h
  | cons b bs => rfl

theorem read?_of_length_eq {bytes : List UInt8} (h : bytes.length = size) :
    read? bytes = some (if bytes.headD 0 = typeByte then (fieldsOf bytes h).decode
      else .error (.typeByte (bytes.headD 0))) := by
  rw [read?, if_pos h, head?_eq_headD h, Reader.fields_eq h]
  dsimp only [Option.bind_eq_bind, Option.bind_some]
  split <;> rfl

theorem isSome_read? (bytes : List UInt8) : (read? bytes).isSome := by
  by_cases h : bytes.length = size
  · rw [read?_of_length_eq h]
    rfl
  · rw [read?_of_length_ne h]
    rfl

/-- The transaction of bytes. The reader is never asked for more than there is. -/
def decode (bytes : List UInt8) : Except EncodingFault Transaction :=
  (read? bytes).get (isSome_read? bytes)

theorem read?_eq (bytes : List UInt8) : read? bytes = some (decode bytes) :=
  (Option.some_get _).symm

theorem decode_of_length_ne {bytes : List UInt8} (h : bytes.length ≠ size) :
    decode bytes = .error (.length size bytes.length) :=
  Option.some.inj ((read?_eq bytes).symm.trans (read?_of_length_ne h))

theorem decode_of_length_eq {bytes : List UInt8} (h : bytes.length = size) :
    decode bytes = if bytes.headD 0 = typeByte then (fieldsOf bytes h).decode
      else .error (.typeByte (bytes.headD 0)) :=
  Option.some.inj ((read?_eq bytes).symm.trans (read?_of_length_eq h))

end KeyChange.Transaction
