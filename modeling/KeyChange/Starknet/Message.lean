import KeyChange.Starknet.Felt
import KeyChange.Hash.Pedersen

namespace KeyChange.Starknet

open Stark

/-- Bytes in pieces of 31, the last of which may be shorter. -/
def pieces : List UInt8 → List (List UInt8)
  | [] => []
  | b :: bs => (b :: bs.take 30) :: pieces (bs.drop 30)
termination_by bs => bs.length
decreasing_by
  simp only [List.length_drop, List.length_cons]
  omega

def messageElements (message : List UInt8) : List Felt := (pieces message).map Felt.reduce

def messagePrefix : Felt := Felt.reduce (utf8 "StarkNet Message")

/-- The elements of a message that is bound to a chain and an account. -/
def accountElements (chainId address : String) (message : List UInt8) :
    Except FieldError (List Felt) :=
  match Felt.ofShortString "chainId" chainId with
  | .error e => .error e
  | .ok chain =>
    match Felt.ofHex "address" address with
    | .error e => .error e
    | .ok account => .ok (messagePrefix :: chain :: account :: messageElements message)

def messageHash (message : List UInt8) : Felt := Pedersen.hashList (messageElements message)

def accountMessageHash (chainId address : String) (message : List UInt8) :
    Except FieldError Felt :=
  (accountElements chainId address message).map Pedersen.hashList

end KeyChange.Starknet
