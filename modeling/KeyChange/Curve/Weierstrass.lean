import KeyChange.Curve.Field

namespace KeyChange.Curve

/-- A point: none is the neutral element. -/
abbrev Point (m : Nat) := Option (Fin m × Fin m)

/-- A curve `y² = x³ + a * x + b` over the residues modulo `m`, with a point that generates a group of
prime order. -/
structure Weierstrass (m : Nat) where
  a : Fin m
  b : Fin m
  base : Fin m × Fin m
  order : Nat

/-- The point `(x / z², y / z³)`, or the neutral element where `z` is zero. Sums and multiples go by
triples, so a division is needed only at the end. -/
structure Triple (m : Nat) where
  x : Fin m
  y : Fin m
  z : Fin m

variable {m : Nat} [NeZero m]

namespace Triple

def zero : Triple m := ⟨1, 1, 0⟩

def ofPoint : Point m → Triple m
  | none => zero
  | some (x, y) => ⟨x, y, 1⟩

def toPoint (p : Triple m) : Point m :=
  if p.z = 0 then none
  else
    let i := inverse p.z
    let i2 := i * i
    some (p.x * i2, p.y * (i2 * i))

def double (a : Fin m) (p : Triple m) : Triple m :=
  let yy := p.y * p.y
  let zz := p.z * p.z
  let s := residue 4 * (p.x * yy)
  let t := residue 3 * (p.x * p.x) + a * (zz * zz)
  let x := t * t - (s + s)
  ⟨x, t * (s - x) - residue 8 * (yy * yy), residue 2 * (p.y * p.z)⟩

def add (a : Fin m) (p q : Triple m) : Triple m :=
  if p.z = 0 then q
  else if q.z = 0 then p
  else
    let pzz := p.z * p.z
    let qzz := q.z * q.z
    let u := p.x * qzz
    let s := p.y * (qzz * q.z)
    let h := q.x * pzz - u
    let r := q.y * (pzz * p.z) - s
    if h = 0 then
      if r = 0 then p.double a else zero
    else
      let hh := h * h
      let hhh := hh * h
      let v := u * hh
      let x := r * r - hhh - (v + v)
      ⟨x, r * (v - x) - s * hhh, h * (p.z * q.z)⟩

def multiple (a : Fin m) (n : Nat) (p : Triple m) : Triple m :=
  (bits n).foldl (fun acc b =>
    let acc := acc.double a
    if b then acc.add a p else acc) zero

end Triple

namespace Weierstrass

/-- A point and multiples of others, added up. -/
def combination (E : Weierstrass m) (first : Point m) (terms : List (Nat × Point m)) : Point m :=
  (terms.foldl (fun acc (n, p) => acc.add E.a ((Triple.ofPoint p).multiple E.a n))
    (Triple.ofPoint first)).toPoint

def baseMultiple (E : Weierstrass m) (n : Nat) : Point m := E.combination none [(n, some E.base)]

def rhs (E : Weierstrass m) (x : Fin m) : Fin m := (x * x + E.a) * x + E.b

end Weierstrass

end KeyChange.Curve
