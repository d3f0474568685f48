import KeyChange.Curve.Field
import KeyChange.Bytes

namespace KeyChange.Edwards

open Curve

/-- The modulus of the field, `2 ^ 255 - 19`. -/
def modulus : Nat := 0x7fffffffffffffffffffffffffffffffffffffffffffffffffffffffffffffed

def order : Nat := 0x1000000000000000000000000000000014def9dea2f79cd65812631a5cf5d3ed

instance : NeZero modulus := ⟨by decide⟩

abbrev Coordinate := Fin modulus

/-- The point `(x / z, y / z)` of `-x² + y² = 1 + d * x² * y²`, where `t = x * y / z`. -/
structure Point where
  x : Coordinate
  y : Coordinate
  z : Coordinate
  t : Coordinate

/-- The quotient of `-121665` by `121666`. -/
def d : Coordinate := residue 0x52036cee2b6ffe738cc740797779e89800700a4d4141d8ab75eb4dca135978a3

namespace Point

def zero : Point := ⟨0, 1, 1, 0⟩

def ofAffine (x y : Coordinate) : Point := ⟨x, y, 1, x * y⟩

/-- The sum of two points; the formula is complete, so it covers doubling. -/
def add (p q : Point) : Point :=
  let a := (p.y - p.x) * (q.y - q.x)
  let b := (p.y + p.x) * (q.y + q.x)
  let c := residue 2 * (d * (p.t * q.t))
  let e := residue 2 * (p.z * q.z)
  ⟨(b - a) * (e - c), (e + c) * (b + a), (e - c) * (e + c), (b - a) * (b + a)⟩

def negate (p : Point) : Point := ⟨0 - p.x, p.y, p.z, 0 - p.t⟩

def multiple (n : Nat) (p : Point) : Point :=
  (bits n).foldl (fun acc b =>
    let acc := acc.add acc
    if b then acc.add p else acc) zero

def isZero (p : Point) : Bool := p.x = 0 && p.y = p.z

def hasSmallOrder (p : Point) : Bool :=
  let p2 := p.add p
  let p4 := p2.add p2
  (p4.add p4).isZero

/-- The ordinate in 32 bytes, least significant first, with the lowest bit of the abscissa on
top. -/
def encode (p : Point) : Bytes 32 :=
  let i := inverse p.z
  let x := p.x * i
  let y := p.y * i
  ⟨littleEndian 32 (y.val + x.val % 2 * 2 ^ (255 : Nat)), by simp⟩

/-- A root of `u / v`, the even one, if there is one. -/
def root? (u v : Coordinate) : Option Coordinate :=
  let v3 := v * v * v
  let r := u * v3 * power (u * (v3 * v3 * v)) ((modulus - 5) / 8)
  let check := v * (r * r)
  let even := fun (x : Coordinate) => if x.val % 2 = 0 then x else 0 - x
  if check = u then some (even r)
  else if check = 0 - u then some (even (r * power (residue 2) ((modulus - 1) / 4)))
  else none

/-- The point of 32 bytes. The ordinate is taken modulo the prime, and a zero abscissa may carry
either sign. -/
def decode? (b : Bytes 32) : Option Point :=
  let n := ofLittleEndian b.toList
  let y : Coordinate := residue (n % 2 ^ (255 : Nat))
  let yy := y * y
  match root? (yy - 1) (yy * d + 1) with
  | none => none
  | some x => some (ofAffine (if 2 ^ (255 : Nat) ≤ n then 0 - x else x) y)

def base : Point := ofAffine
  (residue 0x216936d3cd6e53fec0a4e231fdd6dc5c692cc7609525a7b2c9562d608f25d51a)
  (residue 0x6666666666666666666666666666666666666666666666666666666666666658)

end Point

end KeyChange.Edwards
