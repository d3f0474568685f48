import KeyChange.Bytes
import KeyChange.Text.Quoted

namespace KeyChange

/-- The UTF-8 bytes of a text. -/
def utf8 (s : String) : List UInt8 := s.toList.flatMap String.utf8EncodeChar

namespace Hex

/-- Why a text of digits has no value. Texts are read as UTF-8, so positions and lengths count bytes. -/
inductive Fault
  | badDigit (byte : UInt8) (position : Nat)
  | oddLength
  | wrongLength
deriving DecidableEq

/-- A byte that is no digit is shown as the character of its own code point. -/
def Fault.message : Fault → String
  | .badDigit byte position =>
    "Invalid character " ++ Text.quotedChar (Char.ofNat byte.toNat) ++ " at position "
      ++ toString position
  | .oddLength => "Odd number of digits"
  | .wrongLength => "Invalid string length"

def digit? (b : UInt8) : Option Nat :=
  if 48 ≤ b.toNat ∧ b.toNat ≤ 57 then some (b.toNat - 48)
  else if 97 ≤ b.toNat ∧ b.toNat ≤ 102 then some (b.toNat - 87)
  else if 65 ≤ b.toNat ∧ b.toNat ≤ 70 then some (b.toNat - 55)
  else none

/-- Reads pairs of digits; `position` is where the first of them stands. -/
def pairs (position : Nat) : List UInt8 → Except Fault (List UInt8)
  | [] => .ok []
  | [_] => .error .oddLength
  | high :: low :: rest =>
    match digit? high with
    | none => .error (.badDigit high position)
    | some h =>
      match digit? low with
      | none => .error (.badDigit low (position + 1))
      | some l =>
        match pairs (position + 2) rest with
        | .error e => .error e
        | .ok bytes => .ok (UInt8.ofNat (16 * h + l) :: bytes)

/-- The bytes that a text of digits spells. The number of digits is looked at first. -/
def decode (digits : List UInt8) : Except Fault (List UInt8) :=
  if digits.length % 2 ≠ 0 then .error .oddLength else pairs 0 digits

def decodeExact (n : Nat) (digits : List UInt8) : Except Fault (List UInt8) :=
  if digits.length % 2 ≠ 0 then .error .oddLength
  else if digits.length / 2 ≠ n then .error .wrongLength
  else pairs 0 digits

def digitChar (n : Nat) : Char := Char.ofNat (if n < 10 then 48 + n else 87 + n)

def encode : List UInt8 → List Char
  | [] => []
  | b :: bs => digitChar (b.toNat / 16) :: digitChar (b.toNat % 16) :: encode bs

def unprefixed? (s : String) : Option String :=
  match s.toList with
  | '0' :: 'x' :: digits => some (String.ofList digits)
  | _ => none

def prefixed (bytes : List UInt8) : String := String.ofList ('0' :: 'x' :: encode bytes)

inductive PrefixedFault
  | noPrefix
  | oddDigits
  | digits (fault : Fault)
deriving DecidableEq

def PrefixedFault.message : PrefixedFault → String
  | .noPrefix => "hex string must start with 0x"
  | .oddDigits => "odd number of hex digits"
  | .digits fault => "invalid hex: " ++ fault.message

/-- The bytes of a text that is `0x` and an even number of digits. -/
def decodePrefixed (s : String) : Except PrefixedFault (List UInt8) :=
  match unprefixed? s with
  | none => .error .noPrefix
  | some digits =>
    if (utf8 digits).length % 2 ≠ 0 then .error .oddDigits
    else
      match decode (utf8 digits) with
      | .error fault => .error (.digits fault)
      | .ok bytes => .ok bytes

end Hex

namespace Bytes

variable {n : Nat}

def hex (b : Bytes n) : String := Hex.prefixed b.toList

end Bytes

end KeyChange
