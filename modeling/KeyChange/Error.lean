import KeyChange.Hex
import KeyChange.Fee
import KeyChange.Json.Read
import KeyChange.Signature.StarkEcdsa

namespace KeyChange

inductive SignatureFault
  | noPrefix
  | digits (fault : Hex.Fault)
  | length (expected actual : Nat)
  | recoveryByte (v : UInt8)
  | aboveModulus
  | unrecoverable
deriving DecidableEq

def SignatureFault.reason : SignatureFault → String
  | .noPrefix => "missing 0x prefix"
  | .digits fault => "invalid hex: " ++ fault.message
  | .length expected actual =>
    "expected " ++ toString expected ++ " bytes, got " ++ toString actual
  | .recoveryByte v => "invalid recovery byte " ++ toString v.toNat
  | .aboveModulus => "element exceeds the field modulus"
  | .unrecoverable => "signature error"

def SignatureFault.message (f : SignatureFault) : String := "Invalid signature: " ++ f.reason

inductive FieldFault
  | hex (fault : Hex.PrefixedFault)
  | exceeds (value limit : Nat)
  | notBelow (value limit : Nat)
  | globalAccount
  | reservedToken (first last : Nat)
  | length (expected actual : Nat)
  | notDecimal
  | tooWide (bits : Nat)
  | abovePackable (fee limit : Nat)
  | packing (fault : DecimalFloat.Fault)
  | notRepresentable (fee : Nat)
  | signatureLength (actual : Nat)
  | signature (fault : SignatureFault)
  | notShortString
  | digitCount
  | aboveModulus
  | otherAddress (derived expected : Bytes 20)
  | conflictingAuthorization
deriving DecidableEq

def FieldFault.reason : FieldFault → String
  | .hex fault => fault.message
  | .exceeds value limit => toString value ++ " exceeds " ++ toString limit
  | .notBelow value limit => toString value ++ " is not below " ++ toString limit
  | .globalAccount => "the global asset account cannot change its key"
  | .reservedToken first last =>
    "ids " ++ toString first ++ "..=" ++ toString last ++ " are reserved"
  | .length expected actual =>
    "expected " ++ toString expected ++ " bytes, got " ++ toString actual
  | .notDecimal => "must be a non-negative radix-10 integer"
  | .tooWide bits => "does not fit in " ++ toString bits ++ " bits"
  | .abovePackable fee limit =>
    toString fee ++ " exceeds the packable maximum " ++ toString limit
  | .packing fault => "Encoding error: " ++ fault.message
  | .notRepresentable fee => toString fee ++ " is not exactly representable as a packed fee"
  | .signatureLength actual =>
    "expected 65 (Ethereum) or 96 (Starknet) bytes, got " ++ toString actual
  | .signature fault => fault.message
  | .notShortString => "must be at most 31 ASCII characters"
  | .digitCount => "expected 1 to 64 hex digits"
  | .aboveModulus => "exceeds the field modulus"
  | .otherAddress derived expected =>
    "derives " ++ derived.hex ++ ", expected " ++ expected.hex
  | .conflictingAuthorization => "a bundle cannot carry both CREATE2 data and an L1 signature"

structure FieldError where
  field : String
  fault : FieldFault
deriving DecidableEq

def FieldError.message (e : FieldError) : String :=
  "Validation error: " ++ e.field ++ ": " ++ e.fault.reason

/-- Why a value has no byte form, or bytes are no transaction. -/
inductive EncodingFault
  | packing (fault : DecimalFloat.Fault)
  | fee (fault : Fee.ClosestFault)
  | length (expected actual : Nat)
  | typeByte (b : UInt8)
  | field (error : FieldError)
  | feeOverflow
deriving DecidableEq

def EncodingFault.reason : EncodingFault → String
  | .packing fault => fault.message
  | .fee fault => fault.message
  | .length expected actual =>
    "expected " ++ toString expected ++ " bytes, got " ++ toString actual
  | .typeByte b => "unexpected tx type " ++ Hex.prefixed [b]
  | .field error => error.message
  | .feeOverflow => "packed fee overflows 128 bits"

/-- Why key material is refused. No constructor holds any of the material. -/
inductive KeyFault
  | digitCount (actual : Nat)
  | notHex
  | notEthereumKey
  | notStarknetKey
  | shortSeed (least actual : Nat)
  | length (expected actual : Nat)
deriving DecidableEq

def KeyFault.reason : KeyFault → String
  | .digitCount actual => "expected 64 hex digits, got " ++ toString actual
  | .notHex => "private key is not valid hex"
  | .notEthereumKey => "not a valid secp256k1 secret key"
  | .notStarknetKey => "Stark key must be in [1, curve order)"
  | .shortSeed least actual =>
    "seed must be at least " ++ toString least ++ " bytes, got " ++ toString actual
  | .length expected actual =>
    "expected " ++ toString expected ++ " bytes, got " ++ toString actual

inductive SigningFault
  | noSignature
  | starknet (fault : StarkEcdsa.Fault)
  | carriesSignature
  | carriesCreate2
  | otherScheme
deriving DecidableEq

def SigningFault.reason : SigningFault → String
  | .noSignature => "signature error"
  | .starknet .invalidMessageHash => "InvalidMessageHash"
  | .starknet .invalidNonce => "InvalidK"
  | .carriesSignature => "transaction carries an L1 signature; use L1 auth signing"
  | .carriesCreate2 => "transaction carries CREATE2 authorization"
  | .otherScheme => "supplied L1 signature does not match the signer's L1 type"

inductive Error
  | validation (error : FieldError)
  | encoding (fault : EncodingFault)
  | key (fault : KeyFault)
  | signing (fault : SigningFault)
  | signature (fault : SignatureFault)
  | json (error : Json.ReadError)

namespace Error

def message : Error → String
  | .validation e => e.message
  | .encoding f => "Encoding error: " ++ f.reason
  | .key f => "Private key parse error: " ++ f.reason
  | .signing f => "Signature failure: " ++ f.reason
  | .signature f => f.message
  | .json e => "JSON parse error: " ++ e.message

/-- Whether other input to a request mends the error. -/
def isValidation : Error → Bool
  | .validation _ => true
  | _ => false

/-- Whether other key material mends the error. -/
def isSigning : Error → Bool
  | .key _ => true
  | .signing _ => true
  | _ => false

end Error

end KeyChange
