import KeyChange.Error

namespace KeyChange.Stark.Felt

open Curve

def toBytes (x : Felt) : Bytes 32 := Bytes.ofNat 32 x.val

/-- The element that bytes spell; none where their number is not below the modulus. -/
def ofList? (bytes : List UInt8) : Option Felt :=
  if h : ofBigEndian bytes < modulus then some ⟨ofBigEndian bytes, h⟩ else none

def reduce (bytes : List UInt8) : Felt := residue (ofBigEndian bytes)

/-- The number of bytes that a short string may have: that many always fit. -/
def shortLength : Nat := 31

/-- A short string: ASCII characters as the bytes of an element. -/
def ofShortString (field s : String) : Except FieldError Felt :=
  if s.toList.all (·.toNat < 128) ∧ (utf8 s).length ≤ shortLength then .ok (reduce (utf8 s))
  else .error ⟨field, .notShortString⟩

def padDigits (digits : String) : String :=
  String.ofList (List.replicate (64 - digits.toList.length) '0') ++ digits

def ofHex (field s : String) : Except FieldError Felt :=
  match Hex.unprefixed? s with
  | none => .error ⟨field, .hex .noPrefix⟩
  | some digits =>
    if (utf8 digits).length = 0 ∨ 64 < (utf8 digits).length then .error ⟨field, .digitCount⟩
    else
      match Hex.decodeExact 32 (utf8 (padDigits digits)) with
      | .error fault => .error ⟨field, .hex (.digits fault)⟩
      | .ok bytes =>
        match ofList? bytes with
        | none => .error ⟨field, .aboveModulus⟩
        | some x => .ok x

end KeyChange.Stark.Felt
