import KeyChange.Proofs.Outcome

namespace KeyChange.Machine

variable {α : Type} {w n : Nat} {x y z : BitVec w}

/-- Why an operation is not carried out: a result that is no word, a shift by the width or more, a division
by zero, a slice that begins after the end, or a loop that is not over after the rounds it is given. -/
inductive Trap
  | overflow
  | shift
  | division
  | slice
  | rounds
deriving DecidableEq

def word? (w n : Nat) : Option (BitVec w) := if n < 2 ^ w then some (.ofNat w n) else none

theorem word?_eq_some_iff : word? w n = some z ↔ n = z.toNat := by
  unfold word?
  split
  next h => rw [Option.some.injEq, BitVec.toNat_eq, BitVec.toNat_ofNat, Nat.mod_eq_of_lt h]
  next h =>
    have := z.isLt
    simp only [reduceCtorEq, false_iff]
    omega

theorem word?_eq_none_iff : word? w n = none ↔ 2 ^ w ≤ n := by
  unfold word?
  split <;> simp <;> omega

def orTrap (trap : Trap) : Option α → Except Trap α
  | some a => .ok a
  | none => .error trap

theorem orTrap_eq_ok_iff {trap : Trap} {o : Option α} {a : α} :
    orTrap trap o = .ok a ↔ o = some a := by
  cases o <;> simp [orTrap]

def checkedMul (x y : BitVec w) : Option (BitVec w) := word? w (x.toNat * y.toNat)

/-- Powers by repeated squaring. There is none as soon as a factor is no word. -/
def checkedPow (x : BitVec w) (n : Nat) : Option (BitVec w) :=
  if n = 0 then word? w 1
  else do
    let root ← checkedPow x (n / 2)
    let square ← checkedMul root root
    if n % 2 = 1 then checkedMul square x else some square
termination_by n

def saturatingMul (x y : BitVec w) : BitVec w := (checkedMul x y).getD (.allOnes w)

def saturatingPow (x : BitVec w) (n : Nat) : BitVec w := (checkedPow x n).getD (.allOnes w)

def add (x y : BitVec w) : Except Trap (BitVec w) := orTrap .overflow (word? w (x.toNat + y.toNat))

def mul (x y : BitVec w) : Except Trap (BitVec w) := orTrap .overflow (checkedMul x y)

def sub (x y : BitVec w) : Except Trap (BitVec w) :=
  if y.toNat ≤ x.toNat then .ok (x - y) else .error .overflow

def div (x y : BitVec w) : Except Trap (BitVec w) :=
  if y.toNat = 0 then .error .division else .ok (x / y)

/-- Bits that leave the word are lost; only the number of places can trap. -/
def shiftLeft (x : BitVec w) (places : BitVec 64) : Except Trap (BitVec w) :=
  if places.toNat < w then .ok (x <<< places.toNat) else .error .shift

def shiftRight (x : BitVec w) (places : BitVec 64) : Except Trap (BitVec w) :=
  if places.toNat < w then .ok (x >>> places.toNat) else .error .shift

def sliceFrom (start : BitVec 64) (items : List α) : Except Trap (List α) :=
  if start.toNat ≤ items.length then .ok (items.drop start.toNat) else .error .slice

def ones (w : Nat) (places : BitVec 64) : Except Trap (BitVec w) := do
  sub (← shiftLeft (.ofNat w 1) places) (.ofNat w 1)

theorem exists_word (h : n < 2 ^ w) : ∃ z : BitVec w, n = z.toNat :=
  ⟨.ofNat w n, by rw [BitVec.toNat_ofNat, Nat.mod_eq_of_lt h]⟩

theorem checkedMul_eq_some_iff : checkedMul x y = some z ↔ x.toNat * y.toNat = z.toNat :=
  word?_eq_some_iff

theorem add_eq_ok_iff : add x y = .ok z ↔ x.toNat + y.toNat = z.toNat := by
  rw [add, orTrap_eq_ok_iff, word?_eq_some_iff]

theorem mul_eq_ok_iff : mul x y = .ok z ↔ x.toNat * y.toNat = z.toNat := by
  rw [mul, orTrap_eq_ok_iff, checkedMul_eq_some_iff]

theorem sub_eq_ok_iff : sub x y = .ok z ↔ y.toNat ≤ x.toNat ∧ x.toNat - y.toNat = z.toNat := by
  unfold sub
  split
  next h =>
    rw [Except.ok.injEq, BitVec.toNat_eq, BitVec.toNat_sub_of_le (BitVec.le_def.mpr h)]
    exact (and_iff_right h).symm
  next h => simp [h]

theorem div_eq_ok_iff : div x y = .ok z ↔ y.toNat ≠ 0 ∧ x.toNat / y.toNat = z.toNat := by
  unfold div
  split
  next h => simp [h]
  next h =>
    rw [Except.ok.injEq, BitVec.toNat_eq, BitVec.toNat_udiv]
    exact (and_iff_right h).symm

theorem exists_add (h : x.toNat + y.toNat < 2 ^ w) :
    ∃ z, add x y = .ok z ∧ z.toNat = x.toNat + y.toNat := by
  obtain ⟨z, hz⟩ := exists_word h
  exact ⟨z, add_eq_ok_iff.mpr hz, hz.symm⟩

theorem exists_mul (h : x.toNat * y.toNat < 2 ^ w) :
    ∃ z, mul x y = .ok z ∧ z.toNat = x.toNat * y.toNat := by
  obtain ⟨z, hz⟩ := exists_word h
  exact ⟨z, mul_eq_ok_iff.mpr hz, hz.symm⟩

theorem exists_sub (h : y.toNat ≤ x.toNat) :
    ∃ z, sub x y = .ok z ∧ z.toNat = x.toNat - y.toNat := by
  obtain ⟨z, hz⟩ := exists_word (Nat.lt_of_le_of_lt (Nat.sub_le x.toNat y.toNat) x.isLt)
  exact ⟨z, sub_eq_ok_iff.mpr ⟨h, hz⟩, hz.symm⟩

theorem exists_div (h : 0 < y.toNat) : ∃ z, div x y = .ok z ∧ z.toNat = x.toNat / y.toNat := by
  obtain ⟨z, hz⟩ := exists_word (Nat.lt_of_le_of_lt (Nat.div_le_self x.toNat y.toNat) x.isLt)
  exact ⟨z, div_eq_ok_iff.mpr ⟨by omega, hz⟩, hz.symm⟩

theorem shiftLeft_eq_ok {places : BitVec 64} (h : places.toNat < w) :
    shiftLeft x places = .ok (x <<< places.toNat) :=
  if_pos h

theorem shiftRight_eq_ok {places : BitVec 64} (h : places.toNat < w) :
    shiftRight x places = .ok (x >>> places.toNat) :=
  if_pos h

theorem sliceFrom_eq_ok {start : BitVec 64} {items : List α} (h : start.toNat ≤ items.length) :
    sliceFrom start items = .ok (items.drop start.toNat) :=
  if_pos h

theorem exists_ones {places : BitVec 64} (h : places.toNat < w) :
    ∃ z, ones w places = .ok z ∧ z.toNat = 2 ^ places.toNat - 1 := by
  have hone : (BitVec.ofNat w 1).toNat = 1 := by
    rw [BitVec.toNat_ofNat, Nat.mod_eq_of_lt (Nat.one_lt_two_pow (by omega))]
  have hpower : ((BitVec.ofNat w 1) <<< places.toNat).toNat = 2 ^ places.toNat := by
    rw [BitVec.toNat_shiftLeft, hone, Nat.one_shiftLeft,
      Nat.mod_eq_of_lt (Nat.pow_lt_pow_right (by omega) h)]
  have hpos : 0 < 2 ^ places.toNat := Nat.two_pow_pos _
  obtain ⟨z, hsub, hz⟩ := exists_sub
    (show (BitVec.ofNat w 1).toNat ≤ (BitVec.ofNat w 1 <<< places.toNat).toNat by omega)
  exact ⟨z, by rw [ones, shiftLeft_eq_ok h, ok_bind, hsub], by rw [hz, hpower, hone]⟩

theorem toNat_shiftLeft_or (hx : x.toNat * 2 ^ n < 2 ^ w) (hy : y.toNat < 2 ^ n) :
    (x <<< n ||| y).toNat = x.toNat * 2 ^ n + y.toNat := by
  rw [BitVec.toNat_or, BitVec.toNat_shiftLeft, Nat.shiftLeft_eq, Nat.mod_eq_of_lt hx,
    ← Nat.shiftLeft_eq, ← Nat.shiftLeft_add_eq_or_of_lt hy]

theorem toNat_saturatingMul (x y : BitVec w) :
    (saturatingMul x y).toNat = min (x.toNat * y.toNat) (2 ^ w - 1) := by
  unfold saturatingMul
  cases h : checkedMul x y with
  | some z =>
    have := checkedMul_eq_some_iff.mp h
    have := z.isLt
    simp only [Option.getD_some]
    omega
  | none =>
    have := word?_eq_none_iff.mp h
    simp only [Option.getD_none, BitVec.toNat_allOnes]
    omega

theorem odd_factor_eq_some_iff :
    (if n % 2 = 1 then checkedMul y x else some y) = some z ↔
      y.toNat * x.toNat ^ (n % 2) = z.toNat := by
  split
  next hodd => rw [hodd, Nat.pow_one, checkedMul_eq_some_iff]
  next heven =>
    have heven : n % 2 = 0 := by omega
    rw [heven, Nat.pow_zero, Nat.mul_one, Option.some.injEq, BitVec.toNat_eq]

/-- There is a power exactly if it is a word, since no factor is larger than the power. -/
theorem checkedPow_eq_some_iff (hx : 0 < x.toNat) :
    checkedPow x n = some z ↔ x.toNat ^ n = z.toNat := by
  induction n using Nat.strongRecOn generalizing z with
  | ind n ih =>
    rw [checkedPow]
    split
    next hn => rw [hn, Nat.pow_zero, word?_eq_some_iff]
    next hn =>
      have hroot (root : BitVec w) : checkedPow x (n / 2) = some root ↔ x.toNat ^ (n / 2) = root.toNat :=
        ih (n / 2) (by omega)
      have hsplit : x.toNat ^ (n / 2) * x.toNat ^ (n / 2) * x.toNat ^ (n % 2) = x.toNat ^ n := by
        rw [← Nat.pow_add, ← Nat.pow_add]
        congr 1
        omega
      simp only [Option.bind_eq_bind, Option.bind_eq_some_iff, hroot, checkedMul_eq_some_iff,
        odd_factor_eq_some_iff]
      constructor
      · rintro ⟨root, hr, square, hs, h⟩
        rw [← hsplit, hr, hs, h]
      · intro h
        have hsquare_le : x.toNat ^ (n / 2) * x.toNat ^ (n / 2) ≤ x.toNat ^ n := by
          rw [← hsplit]
          exact Nat.le_mul_of_pos_right _ (Nat.pow_pos hx)
        have hroot_le : x.toNat ^ (n / 2) ≤ x.toNat ^ (n / 2) * x.toNat ^ (n / 2) :=
          Nat.le_mul_of_pos_right _ (Nat.pow_pos hx)
        have hz := z.isLt
        obtain ⟨root, hr⟩ := exists_word (show x.toNat ^ (n / 2) < 2 ^ w by omega)
        obtain ⟨square, hs⟩ := exists_word (show x.toNat ^ (n / 2) * x.toNat ^ (n / 2) < 2 ^ w by omega)
        exact ⟨root, hr, square, by rw [← hr, hs], by rw [← hs, hsplit, h]⟩

end KeyChange.Machine
