import KeyChange.Ethereum.Address
import KeyChange.Json.Value
import KeyChange.Json.Read

namespace KeyChange

/-- What the address of an account is derived from, together with the key that its salt is bound to. -/
structure Create2 where
  creator : Ethereum.Address
  salt : Bytes 32
  codeHash : Bytes 32
deriving DecidableEq

namespace Create2

def saltPreimage (data : Create2) (keyHash : List UInt8) : List UInt8 :=
  data.salt.toList ++ keyHash

/-- The salt that is bound to a key. -/
def boundSalt (data : Create2) (keyHash : List UInt8) : Bytes 32 :=
  Keccak.digest (data.saltPreimage keyHash)

def addressPreimage (data : Create2) (keyHash : List UInt8) : List UInt8 :=
  0xff :: data.creator.toList ++ (data.boundSalt keyHash).toList ++ data.codeHash.toList

def address (data : Create2) (keyHash : List UInt8) : Ethereum.Address :=
  lastTwenty (Keccak.digest (data.addressPreimage keyHash))

/-- What the account's contract is shown: a one, and the data. -/
def witness (data : Create2) : List UInt8 :=
  1 :: data.creator.toList ++ data.salt.toList ++ data.codeHash.toList

def toJson (data : Create2) : Json.Value :=
  .object [("creatorAddress", .string data.creator.hex), ("saltArg", .string data.salt.hex),
    ("codeHash", .string data.codeHash.hex)]

def expectedBytes (n : Nat) : String :=
  "a (both 0x-prefixed or not) hex string or byte array containing " ++ toString n ++ " bytes"

/-- The digits of fixed bytes. Blanks among them are passed over. -/
def digits (position : Nat) : List UInt8 → Except String (List Nat)
  | [] => .ok []
  | b :: bs =>
    match Hex.digit? b with
    | some n => (digits (position + 1) bs).map (n :: ·)
    | none =>
      if b = 0x20 ∨ b = 0x0d ∨ b = 0x0a ∨ b = 0x09 then digits (position + 1) bs
      else
        .error ("invalid hex character: " ++ (Char.ofNat b.toNat).toString ++ ", at "
          ++ toString position)

/-- Bytes of two digits each; a digit left over is dropped. -/
def pairUp : List Nat → List UInt8
  | a :: b :: rest => UInt8.ofNat (16 * a + b) :: pairUp rest
  | _ => []

/-- Exactly `n` bytes, with or without `0x` before them. Bytes that blanks leave without digits are
zero. -/
def readFixed (n : Nat) : Json.Reader (Bytes n) := fun o d =>
  match d with
  | .string s => do
    let s ← Json.readLeaf s
    let (text, start) := match Hex.unprefixed? s with
      | some digits => (utf8 digits, 2)
      | none => (utf8 s, 0)
    if text.length ≠ 2 * n then .error (.wrongLength text.length (expectedBytes n))
    else
      match digits start text with
      | .error reason => .error (.refused reason)
      | .ok ds =>
        let bytes := pairUp ds
        return ⟨(bytes ++ List.replicate n 0).take n, by simp⟩
  | d => Json.mismatch (expectedBytes n) d

def fields : List Json.Field :=
  [.required "creatorAddress" (readFixed 20), .required "saltArg" (readFixed 32),
    .required "codeHash" (readFixed 32)]

def read : Json.Reader Create2 := fun o d => do
  let r ← Json.readRecord "struct Create2Data" fields o d
  return {
    creator := ← r.get "creatorAddress" (readFixed 20)
    salt := ← r.get "saltArg" (readFixed 32)
    codeHash := ← r.get "codeHash" (readFixed 32) }

end Create2

end KeyChange
