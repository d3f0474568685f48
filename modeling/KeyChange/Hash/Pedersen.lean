import KeyChange.Curve.Stark

namespace KeyChange.Pedersen

open Curve Stark

def point (x y : Nat) : Felt × Felt := (residue x, residue y)

def shift : Felt × Felt := point
  0x49ee3eba8c1600700ee1b87eb599f16716b0b1022947733551fde4050ca6804
  0x3ca0cfe4b3bc6ddf346d49d06ea0ed34e621062c0e056c1d0405d266e10268a

/-- Each element is hashed by one point for its low 248 bits and one for the bits above them. -/
def firstLow : Felt × Felt := point
  0x234287dcbaffe7f969c748655fca9e58fa8120b6d56eb0c1080d17957ebe47b
  0x3b056f100f96fb21e889527d41f4e39940135dd7a6c94cc6ed0268ee89e5615

def firstHigh : Felt × Felt := point
  0x4fa56f376c83db33f9dab2656558f3399099ec1de5e3018b7a6932dba8aa378
  0x3fa0984c931c9e38113e0c0e47e4401562761f92a7a23b45168f4e80ff5b54d

def secondLow : Felt × Felt := point
  0x4ba4cc166be8dec764910f75b45f74b40c690c74709e90f3aa372f0bd2d6997
  0x40301cf5c1751f4b971e46c4ede85fcac5c59a5ce5ae7c48151f27b24b219c

def secondHigh : Felt × Felt := point
  0x54302dcb0e6cc1c6e44cca8f61a63bb2ca65048d53fb325d36ff12c49a58202
  0x1b77b3e37d13504b348046268d8ae25ce98ad783c25561a879dcc77e99c2426

/-- The hash of two elements: the abscissa of a sum of multiples of fixed points. -/
def hash (a b : Felt) : Felt :=
  let sum := curve.combination (some shift) [
    (a.val % 2 ^ (248 : Nat), some firstLow), (a.val / 2 ^ (248 : Nat), some firstHigh),
    (b.val % 2 ^ (248 : Nat), some secondLow), (b.val / 2 ^ (248 : Nat), some secondHigh)]
  match sum with
  | some (x, _) => x
  | none => 0

def chain (first : Felt) (elements : List Felt) : Felt := elements.foldl hash first

/-- The hash of a list: the chain from zero, and the length on top. -/
def hashList (elements : List Felt) : Felt := hash (chain 0 elements) (residue elements.length)

end KeyChange.Pedersen
