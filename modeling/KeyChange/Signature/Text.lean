import KeyChange.Error

namespace KeyChange

def signatureBytes (s : String) : Except SignatureFault (List UInt8) :=
  match Hex.unprefixed? s with
  | none => .error .noPrefix
  | some digits => (Hex.decode (utf8 digits)).mapError .digits

/-- The bytes that the text of a field spells. -/
def Hex.decodeField (field s : String) : Except FieldError (List UInt8) :=
  (decodePrefixed s).mapError fun refusal => ⟨field, .hex refusal⟩

def readPrefixedList : Json.Reader (List UInt8) :=
  Json.readText fun s => (Hex.decodeField "hex" s).mapError FieldError.message

def readPrefixedBytes (n : Nat) : Json.Reader (Bytes n) :=
  Json.readText fun s => do
    let bytes ← (Hex.decodeField "hex" s).mapError FieldError.message
    match Bytes.ofList? n bytes with
    | none => .error ("unexpected byte length " ++ toString bytes.length)
    | some b => .ok b

end KeyChange
