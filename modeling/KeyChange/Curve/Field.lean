import KeyChange.Bytes

namespace KeyChange.Curve

def bits (n : Nat) : List Bool := (List.range (n.log2 + 1)).reverse.map n.testBit

section

variable {m : Nat} [NeZero m]

def power (x : Fin m) (n : Nat) : Fin m :=
  (bits n).foldl (fun acc b => if b then acc * acc * x else acc * acc) 1

/-- The inverse of a residue modulo a prime; zero for zero. -/
def inverse (x : Fin m) : Fin m := power x (m - 2)

def residue (n : Nat) : Fin m := Fin.ofNat m n

end

end KeyChange.Curve
