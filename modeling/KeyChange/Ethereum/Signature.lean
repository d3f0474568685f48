import KeyChange.Ethereum.Address
import KeyChange.Signature.Text
import KeyChange.Signature.Recoverable

namespace KeyChange.Ethereum

/-- A recovery byte: a parity, to which 27 may be added. -/
structure Recovery where
  isOdd : Bool
  hasOffset : Bool
deriving DecidableEq

namespace Recovery

def toByte (v : Recovery) : UInt8 :=
  match v.isOdd, v.hasOffset with
  | false, false => 0
  | true, false => 1
  | false, true => 27
  | true, true => 28

def ofByte? (b : UInt8) : Option Recovery :=
  if b = 0 then some ⟨false, false⟩
  else if b = 1 then some ⟨true, false⟩
  else if b = 27 then some ⟨false, true⟩
  else if b = 28 then some ⟨true, true⟩
  else none

theorem ofByte?_toByte (v : Recovery) : ofByte? v.toByte = some v := by
  obtain ⟨isOdd, hasOffset⟩ := v
  cases isOdd <;> cases hasOffset <;> rfl

end Recovery

/-- Two numbers of 32 bytes and a recovery byte, kept as they were received. -/
structure Signature where
  r : Bytes 32
  s : Bytes 32
  v : Recovery
deriving DecidableEq

namespace Signature

def size : Nat := 65

def toList (x : Signature) : List UInt8 := x.r.toList ++ x.s.toList ++ [x.v.toByte]

def ofList (bytes : List UInt8) : Except SignatureFault Signature :=
  if h : bytes.length = size then
    have h : bytes.length = 65 := h
    match Recovery.ofByte? bytes[64] with
    | none => .error (.recoveryByte bytes[64])
    | some v => .ok ⟨⟨bytes.take 32, by simp [h]⟩, ⟨(bytes.drop 32).take 32, by simp [h]⟩, v⟩
  else .error (.length size bytes.length)

def hex (x : Signature) : String := Hex.prefixed x.toList

def ofHex (s : String) : Except SignatureFault Signature :=
  match signatureBytes s with
  | .error fault => .error fault
  | .ok bytes => ofList bytes

def read : Json.Reader Signature := Json.readText fun s => (ofHex s).mapError (·.message)

/-- The address whose key signed the digest. -/
def recover (x : Signature) (digest : Bytes 32) : Except SignatureFault Address :=
  match Recoverable.recover? ⟨x.r.toNat, x.s.toNat, x.v.isOdd⟩ digest with
  | none => .error .unrecoverable
  | some (a, b) => .ok (Address.ofPublicKey a b)

end Signature

end KeyChange.Ethereum
