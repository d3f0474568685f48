import KeyChange.DecimalFloat

namespace KeyChange.Fee

open DecimalFloat

/-- Five bits of exponent below eleven of mantissa. -/
def layout : Layout := ⟨5, 11⟩

/-- The largest fee, `2047 * 10 ^ 31`. -/
def maximum : Nat := 20470000000000000000000000000000000

def pack (amount : Amount) : Except Fault (Bytes 2) := DecimalFloat.pack layout amount

def unpack (data : List UInt8) : Option Amount := DecimalFloat.unpack layout data

def isPackable (amount : Amount) : Bool :=
  if maximum < amount.val then false
  else
    match pack amount with
    | .error _ => false
    | .ok packed => unpack packed.toList == some amount

inductive ClosestFault
  | packing (fault : Fault)
  | lost (amount : Nat)
deriving DecidableEq

def ClosestFault.message : ClosestFault → String
  | .packing fault => fault.message
  | .lost amount => "fee " ++ toString amount ++ " does not repack"

/-- The greatest fee that is not above the amount. -/
def closest (amount : Amount) : Except ClosestFault Amount :=
  match pack amount with
  | .error fault => .error (.packing fault)
  | .ok packed =>
    match unpack packed.toList with
    | none => .error (.lost amount.val)
    | some fee => .ok fee

end KeyChange.Fee
