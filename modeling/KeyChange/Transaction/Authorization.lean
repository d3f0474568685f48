import KeyChange.Owner.Signature
import KeyChange.Transaction.Create2

namespace KeyChange

/-- How the owner of an account authorizes a new key. -/
inductive Authorization
  /-- By a call on the owner's chain. -/
  | onchain
  /-- By a signature. -/
  | signed (signature : Owner.Signature)
  /-- By an account whose address is bound to the key. -/
  | create2 (data : Create2)
deriving DecidableEq

namespace Authorization

def isOnchain : Authorization → Bool
  | .onchain => true
  | _ => false

def isEthereum : Authorization → Bool
  | .signed (.ethereum _) => true
  | _ => false

def isCreate2 : Authorization → Bool
  | .create2 _ => true
  | _ => false

def signature? : Authorization → Option Owner.Signature
  | .signed x => some x
  | _ => none

/-- What an Ethereum contract is shown. A signature's recovery byte has its 27 added. -/
def witness? : Authorization → Option (List UInt8)
  | .signed (.ethereum x) =>
    some (0 :: x.r.toList ++ x.s.toList ++ [(Ethereum.Recovery.mk x.v.isOdd true).toByte])
  | .create2 data => some data.witness
  | _ => none

def toJson : Authorization → Json.Value
  | .onchain => .object [("type", .string "Onchain")]
  | .signed (.ethereum x) =>
    .object [("type", .string "EthECDSA"), ("ethSignature", .string x.hex)]
  | .signed (.starknet x) =>
    .object [("type", .string "StarkECDSA"), ("starkSignature", .string x.hex)]
  | .create2 data => .object [("type", .string "EthCreate2"), ("data", data.toJson)]

def kinds : List String := ["Onchain", "EthECDSA", "StarkECDSA", "EthCreate2"]

def readField {α : Type} (kind name : String) (r : Json.Reader α) (d : Json.Document) :
    Except Json.ReadError α := do
  let record ← Json.readRecord ("struct variant ChangePubKeyAuthData::" ++ kind)
    [.required name r] .buffer d
  record.get name r

def read : Json.Reader Authorization := fun o d => do
  let (kind, d) ← Json.readTagged "ChangePubKeyAuthData" "type" kinds o d
  if kind = "Onchain" then
    Json.readNoFields d
    return .onchain
  else if kind = "EthECDSA" then
    return .signed (.ethereum (← readField kind "ethSignature" Ethereum.Signature.read d))
  else if kind = "StarkECDSA" then
    return .signed (.starknet (← readField kind "starkSignature" Starknet.Signature.read d))
  else return .create2 (← readField kind "data" Create2.read d)

end Authorization

end KeyChange
