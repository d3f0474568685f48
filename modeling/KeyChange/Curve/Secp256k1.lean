import KeyChange.Curve.Weierstrass

namespace KeyChange.Secp256k1

open Curve

def modulus : Nat := 0xfffffffffffffffffffffffffffffffffffffffffffffffffffffffefffffc2f

def order : Nat := 0xfffffffffffffffffffffffffffffffebaaedce6af48a03bbfd25e8cd0364141

instance : NeZero modulus := ⟨by decide⟩

instance : NeZero order := ⟨by decide⟩

def curve : Weierstrass modulus where
  a := 0
  b := 7
  base := (
    residue 0x79be667ef9dcbbac55a06295ce870b07029bfcdb2dce28d959f2815b16f81798,
    residue 0x483ada7726a3c4655da4fbfc0e1108a8fd17b448a68554199c47d08ffb10d4b8)
  order := order

/-- The point with an abscissa whose ordinate is odd or even as asked, if there is one. -/
def lift? (x : Fin modulus) (isOdd : Bool) : Point modulus :=
  let square := curve.rhs x
  let y := power square ((modulus + 1) / 4)
  if y * y = square then some (x, if (y.val % 2 = 1) = isOdd then y else 0 - y) else none

end KeyChange.Secp256k1
