import KeyChange.Hash.Sha256

namespace KeyChange.Hmac

def blockSize : Nat := 64

/-- The authentication code of a message. A key longer than a block is hashed first. -/
def code (key message : List UInt8) : List UInt8 :=
  let key := if blockSize < key.length then (Sha256.digest key).toList else key
  let key := key ++ List.replicate (blockSize - key.length) 0
  let inner := Sha256.digest (key.map (· ^^^ 0x36) ++ message)
  (Sha256.digest (key.map (· ^^^ 0x5c) ++ inner.toList)).toList

structure Generator where
  key : List UInt8
  value : List UInt8

namespace Generator

def reseed (g : Generator) (round : UInt8) (seed : List UInt8) : Generator :=
  let key := code g.key (g.value ++ round :: seed)
  ⟨key, code key g.value⟩

/-- A generator whose outputs depend on the seed alone. -/
def ofSeed (seed : List UInt8) : Generator :=
  ((Generator.mk (List.replicate 32 0) (List.replicate 32 1)).reseed 0 seed).reseed 1 seed

def next (g : Generator) : List UInt8 × Generator :=
  let value := code g.key g.value
  (value, (Generator.mk g.key value).reseed 0 [])

/-- The first output that `accept` turns into a number, among at most `draws` of them. -/
def firstAccepted (accept : Nat → Option Nat) : (draws : Nat) → Generator → Option Nat
  | 0, _ => none
  | draws + 1, g =>
    let (bytes, g) := g.next
    match accept (ofBigEndian bytes) with
    | some n => some n
    | none => firstAccepted accept draws g

end Generator

end KeyChange.Hmac
