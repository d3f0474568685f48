import KeyChange.Bytes

namespace KeyChange.Decimal

/-- The number `mantissa * 2 ^ exponent`. -/
structure Binary64 where
  mantissa : Nat
  exponent : Int
deriving DecidableEq

namespace Binary64

/-- Numerator and denominator of `2 ^ e`. -/
def powerOfTwo (e : Int) : Nat × Nat := (2 ^ e.toNat, 2 ^ (-e).toNat)

def powerOfTen (e : Int) : Nat × Nat := (10 ^ e.toNat, 10 ^ (-e).toNat)

def minExponent : Int := -1074

def maxExponent : Int := 971

def floorLog2 (num den : Nat) : Int :=
  let estimate : Int := num.log2 - den.log2
  let (n, d) := powerOfTwo estimate
  if num * d < n * den then estimate - 1 else estimate

/-- The whole number nearest to `num / den`; of two the even one. -/
def roundHalfEven (num den : Nat) : Nat :=
  let q := num / den
  let r := 2 * (num % den)
  if r < den then q else if den < r then q + 1 else q + q % 2

/-- The number nearest to `num / den`, or none where that is too large. -/
def round? (num den : Nat) : Option Binary64 :=
  if num = 0 then some ⟨0, minExponent⟩
  else
    let e := max (floorLog2 num den - 52) minExponent
    let (n, d) := powerOfTwo e
    let m := roundHalfEven (num * d) (den * n)
    let (m, e) := if m = 2 ^ (53 : Nat) then (2 ^ (52 : Nat), e + 1) else (m, e)
    if maxExponent < e then none else some ⟨m, e⟩

def mul? (a b : Binary64) : Option Binary64 :=
  let (n, d) := powerOfTwo (a.exponent + b.exponent)
  round? (a.mantissa * b.mantissa * n) d

def div? (a b : Binary64) : Option Binary64 :=
  let (n, d) := powerOfTwo (a.exponent - b.exponent)
  round? (a.mantissa * n) (b.mantissa * d)

def quarter (x : Binary64) : Nat × Nat := powerOfTwo (x.exponent - 2)

/-- Whether `c * 10 ^ u` lies among the numbers that round to `x`. The gap below a power of two is
half as wide, and the ends belong to an even mantissa. -/
def roundsFrom (x : Binary64) (c : Nat) (u : Int) : Bool :=
  let (sn, sd) := x.quarter
  let (cn, cd) := powerOfTen u
  let below := if x.mantissa = 2 ^ (52 : Nat) ∧ minExponent < x.exponent then 1 else 2
  let low := (4 * x.mantissa - below) * sn * cd
  let high := (4 * x.mantissa + 2) * sn * cd
  let value := c * cn * sd
  if x.mantissa % 2 = 0 then low ≤ value && value ≤ high else low < value && value < high

def floorLog10 (x : Binary64) : Int :=
  let (n, d) := powerOfTwo x.exponent
  let fits : Nat → Bool := fun i =>
    let (tn, td) := powerOfTen (308 - i)
    tn * d ≤ x.mantissa * n * td
  308 - ((List.range 640).find? fits).getD 640

/-- The neighbour of `x` among the multiples of `10 ^ u` that rounds to it, the nearer of two and
the even one of two equally near. -/
def neighbour? (x : Binary64) (u : Int) : Option Nat :=
  let (n, d) := powerOfTwo x.exponent
  let (tn, td) := powerOfTen u
  let c := x.mantissa * n * td / (d * tn)
  match x.roundsFrom c u, x.roundsFrom (c + 1) u with
  | true, true => some (roundHalfEven (x.mantissa * n * td) (d * tn))
  | true, false => some c
  | false, true => some (c + 1)
  | false, false => none

/-- Digits and exponent of the decimal of fewest digits that rounds to a positive number. -/
def shortest (x : Binary64) : Nat × Int :=
  let e := x.floorLog10
  let grid : Nat → Option (Nat × Int) := fun i => (x.neighbour? (e - i)).map fun c => (c, e - i)
  ((List.range 17).findSome? grid).getD (0, 0)

end Binary64

end KeyChange.Decimal
