import KeyChange.Bytes

namespace KeyChange

abbrev Amount := Fin (2 ^ (128 : Nat))

namespace DecimalFloat

/-- How many bits of a word are exponent, and how many above them are mantissa. A word stands for
`mantissa * 10 ^ exponent`. -/
structure Layout where
  exponentBits : Nat
  mantissaBits : Nat
deriving DecidableEq

namespace Layout

def bits (l : Layout) : Nat := l.exponentBits + l.mantissaBits

/-- The layout of two widths. They are added as machine words, so there is none where the sum is no
such word. -/
def ofWidths? (exponentBits mantissaBits : UInt64) : Option Layout :=
  let l : Layout := ⟨exponentBits.toNat, mantissaBits.toNat⟩
  if l.bits < UInt64.size then some l else none

def width (l : Layout) : Nat := l.bits / 8

/-- Words are whole bytes, at most eight of them. -/
def Supported (l : Layout) : Prop :=
  l.bits % 8 = 0 ∧ l.bits ≤ 64 ∧ l.exponentBits ≤ 31 ∧ l.mantissaBits ≤ 64

instance (l : Layout) : Decidable l.Supported := by
  unfold Supported
  infer_instance

def maxMantissa (l : Layout) : Nat := 2 ^ l.mantissaBits - 1

def maxExponent (l : Layout) : Nat := 2 ^ l.exponentBits - 1

end Layout

/-- The number of powers of ten below `2 ^ 128`: the last of them is `10 ^ 38`. -/
def powerCount : Nat := 39

def power? (n : Nat) : Option Nat := if n < powerCount then some (10 ^ n) else none

def maxAmount : Nat := 2 ^ (128 : Nat) - 1

/-- The largest value of a layout, cut off at the largest amount. -/
def Layout.limit (l : Layout) : Nat :=
  min (l.maxMantissa * (power? l.maxExponent).getD maxAmount) maxAmount

inductive Fault
  | unsupported (layout : Layout)
  | outOfRange (amount : Nat) (bits : Nat)
  | scaleOverflow (amount : Nat)
deriving DecidableEq

def Fault.message : Fault → String
  | .unsupported l =>
    "unsupported float layout " ++ toString l.exponentBits ++ "+" ++ toString l.mantissaBits
      ++ " bits"
  | .outOfRange amount bits =>
    "amount " ++ toString amount ++ " exceeds the " ++ toString bits ++ "-bit float range"
  | .scaleOverflow amount => "amount " ++ toString amount ++ " overflows the scale"

structure Scaled where
  mantissa : Nat
  exponent : Nat
deriving DecidableEq

def Scaled.value (s : Scaled) : Nat := s.mantissa * 10 ^ s.exponent

/-- The least exponent at which `maxMantissa` reaches the amount, if its power of ten is an
amount. -/
def leastExponent? (maxMantissa amount : Nat) : Option Nat :=
  (List.range powerCount).find? fun e => decide (amount ≤ maxMantissa * 10 ^ e)

/-- Rounds down at the least exponent, or takes the largest mantissa one exponent below where that
is at least as close. -/
def round (maxMantissa amount : Nat) : (exponent : Nat) → Scaled
  | 0 => ⟨amount, 0⟩
  | e + 1 =>
    let mantissa := amount / 10 ^ (e + 1)
    if amount - mantissa * 10 ^ (e + 1) < amount - maxMantissa * 10 ^ e then ⟨mantissa, e + 1⟩
    else ⟨maxMantissa, e⟩

def Layout.word (l : Layout) (s : Scaled) : Nat := s.mantissa * 2 ^ l.exponentBits + s.exponent

def Layout.scaled (l : Layout) (word : Nat) : Scaled :=
  ⟨word / 2 ^ l.exponentBits, word % 2 ^ l.exponentBits⟩

/-- The value of a mantissa and an exponent. The power of ten has to be an amount as well as the
product. -/
def Scaled.amount? (s : Scaled) : Option Amount :=
  match power? s.exponent with
  | none => none
  | some power =>
    if h : s.mantissa * power < 2 ^ (128 : Nat) then some ⟨s.mantissa * power, h⟩ else none

/-- Packs an amount, rounding down. -/
def pack (l : Layout) (amount : Amount) : Except Fault (Bytes l.width) :=
  if ¬ l.Supported then .error (.unsupported l)
  else if l.limit < amount.val then .error (.outOfRange amount.val l.bits)
  else
    match leastExponent? l.maxMantissa amount.val with
    | none => .error (.scaleOverflow amount.val)
    | some e => .ok (Bytes.ofNat l.width (l.word (round l.maxMantissa amount.val e)))

/-- The amount that the bytes of a word stand for. -/
def unpack (l : Layout) (data : List UInt8) : Option Amount :=
  if l.Supported ∧ data.length * 8 = l.bits then (l.scaled (ofBigEndian data)).amount? else none

end DecimalFloat

end KeyChange
