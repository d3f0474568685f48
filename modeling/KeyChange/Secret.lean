import KeyChange.Error

namespace KeyChange.Secret

/-- The 32 bytes of a text of 64 digits, with or without `0x` before them. -/
def parse (s : String) : Except KeyFault (Bytes 32) :=
  let digits := utf8 ((Hex.unprefixed? s).getD s)
  if digits.length ≠ 64 then .error (.digitCount digits.length)
  else
    match Hex.decodeExact 32 digits with
    | .error _ => .error .notHex
    | .ok bytes =>
      match Bytes.ofList? 32 bytes with
      | none => .error .notHex
      | some key => .ok key

end KeyChange.Secret
