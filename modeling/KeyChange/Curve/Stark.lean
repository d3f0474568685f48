import KeyChange.Curve.Weierstrass

namespace KeyChange.Stark

open Curve

/-- The modulus of the field, `2 ^ 251 + 17 * 2 ^ 192 + 1`. -/
def modulus : Nat := 0x800000000000011000000000000000000000000000000000000000000000001

def order : Nat := 0x800000000000010ffffffffffffffffb781126dcae7b2321e66a241adc64d2f

instance : NeZero modulus := ⟨by decide⟩

instance : NeZero order := ⟨by decide⟩

abbrev Felt := Fin modulus

def curve : Weierstrass modulus where
  a := 1
  b := residue 0x6f21413efbe40de150e596d72f7a8c5609ad26c15c915c1f4cdfcb99cee9e89
  base := (
    residue 0x1ef15c18599971b7beced415a40f0c7deacfd9b0d1819e03d723d8bc943cfca,
    residue 0x5668060aa49730b7be4801df46ec62de53ecd11abe43a32873000c36e8dc1f)
  order := order

/-- A square root modulo the prime `2 ^ 192 * q + 1`, where `q` is odd: the candidate
`x ^ ((q + 1) / 2)` is corrected by roots of unity of order `2 ^ k`, from the largest `k` down. -/
def sqrtStep (fuel : Nat) (c t r : Felt) (level : Nat) : Option Felt :=
  match fuel with
  | 0 => none
  | fuel + 1 =>
    if t = 1 then some r
    else
      let order := leastOrder level t
      if level ≤ order then none
      else
        let b := squareTimes (level - order - 1) c
        sqrtStep fuel (b * b) (t * (b * b)) (r * b) order
where
  squareTimes : Nat → Felt → Felt
    | 0, x => x
    | n + 1, x => squareTimes n (x * x)
  /-- How often `t` has to be squared to give one, if that is less than `n` times; `n` otherwise. -/
  leastOrder (n : Nat) (t : Felt) : Nat :=
    ((List.range n).foldl (fun (s : Felt × Option Nat) i =>
      match s.2 with
      | some k => (s.1, some k)
      | none => if s.1 = 1 then (s.1, some i) else (s.1 * s.1, none)) (t, none)).2.getD n

def sqrt? (x : Felt) : Option Felt :=
  if x = 0 then some 0
  else
    let q := (modulus - 1) / 2 ^ (192 : Nat)
    let r := power x ((q + 1) / 2)
    match sqrtStep 193 (power (residue 3) q) (power x q) r 192 with
    | some r => if r * r = x then some r else none
    | none => none

def lift? (x : Felt) : Point modulus := (sqrt? (curve.rhs x)).map fun y => (x, y)

end KeyChange.Stark
