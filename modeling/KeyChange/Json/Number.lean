import KeyChange.Decimal.Binary64

namespace KeyChange.Json

open Decimal

/-- Integers of 64 bits are kept, and everything else is floating point. -/
inductive Number
  | natural (n : Nat)
  | negative (n : Nat)
  | float (isNegative : Bool) (magnitude : Binary64)
deriving DecidableEq

namespace Number

/-- The digits of `c * 10 ^ u`, without trailing zeros, and the power of ten of the first. -/
def digits (c : Nat) (u : Int) : List Char × Int :=
  let all := Nat.toDigits 10 c
  ((all.reverse.dropWhile (· = '0')).reverse, u + (all.length - 1 : Int))

/-- An exponent always has a sign, and no leading zeros. -/
def exponentText (e : Int) : String :=
  (if e < 0 then "e-" else "e+") ++ toString e.natAbs

/-- Positional between `10 ^ (-5)` and `10 ^ 16`, with a point in any case; elsewhere with an
exponent. -/
def decimalText (ds : List Char) (e : Int) : String :=
  if -5 ≤ e ∧ e ≤ 15 then
    if e < 0 then "0." ++ String.ofList (List.replicate (-e - 1).toNat '0' ++ ds)
    else
      let whole := e.toNat + 1
      if ds.length ≤ whole then
        String.ofList (ds ++ List.replicate (whole - ds.length) '0') ++ ".0"
      else String.ofList (ds.take whole) ++ "." ++ String.ofList (ds.drop whole)
  else
    match ds with
    | [d] => d.toString ++ exponentText e
    | d :: rest => d.toString ++ "." ++ String.ofList rest ++ exponentText e
    | [] => ""

def magnitudeText (x : Binary64) : String :=
  if x.mantissa = 0 then "0.0"
  else
    let (c, u) := x.shortest
    let (ds, e) := digits c u
    decimalText ds e

def text : Number → String
  | .natural n => toString n
  | .negative n => "-" ++ toString n
  | .float isNegative x => (if isNegative then "-" else "") ++ magnitudeText x

structure Literal where
  isNegative : Bool
  whole : List Char
  fraction : Option (List Char)
  exponent : Option (Bool × List Char)

def digitValue (c : Char) : Nat := c.toNat - 48

/-- Takes digits while the number they spell stays below `bound`; the rest is left. -/
def takeBelow (bound : Nat) (n : Nat) : List Char → Nat × List Char
  | [] => (n, [])
  | c :: cs =>
    if n * 10 + digitValue c < bound then takeBelow bound (n * 10 + digitValue c) cs
    else (n, c :: cs)

/-- `f * 10 ^ e`, rounded at each step: powers of ten above `10 ^ 308` are taken in parts, and a
product that is too large is refused. -/
def scale (f : Binary64) (e : Int) : (fuel : Nat) → Option Binary64
  | 0 => some f
  | fuel + 1 =>
    if e.natAbs ≤ 308 then
      match Binary64.round? (10 ^ e.natAbs) 1 with
      | none => none
      | some power => if 0 ≤ e then f.mul? power else f.div? power
    else if f.mantissa = 0 then some f
    else if 0 ≤ e then none
    else
      match Binary64.round? (10 ^ (308 : Nat)) 1 with
      | none => none
      | some power =>
        match f.div? power with
        | none => none
        | some f => scale f (e + 308) fuel

def ofParts (isNegative : Bool) (significand : Nat) (e : Int) : Option Number :=
  match Binary64.round? significand 1 with
  | none => none
  | some f => (scale f e (e.natAbs + 1)).map (.float isNegative)

/-- The number of a literal; none where it is too large. Only the digits that keep the significand
below `2 ^ 64` count: those of the whole part left over raise the exponent, those of the fraction
are dropped. -/
def ofLiteral (l : Literal) : Option Number :=
  let (significand, spare) := takeBelow UInt64.size 0 l.whole
  match l.fraction, l.exponent, spare with
  | none, none, [] =>
    if l.isNegative then
      if significand = 0 ∨ 2 ^ (63 : Nat) < significand then ofParts true significand 0
      else some (.negative significand)
    else some (.natural significand)
  | fraction, exponent, spare =>
    let (significand, dropped) := takeBelow UInt64.size significand (fraction.getD [])
    let places := (fraction.getD []).length - dropped.length
    let start : Int := spare.length - places
    match exponent with
    | none => ofParts l.isNegative significand start
    | some (isDown, ds) =>
      match takeBelow (2 ^ (31 : Nat)) 0 ds with
      | (e, []) =>
        let e := if isDown then start - e else start + e
        ofParts l.isNegative significand (max Int32.minValue.toInt (min e Int32.maxValue.toInt))
      | (_, _ :: _) =>
        if significand ≠ 0 ∧ ¬ isDown then none
        else some (.float l.isNegative ⟨0, Binary64.minExponent⟩)

end Number

end KeyChange.Json
