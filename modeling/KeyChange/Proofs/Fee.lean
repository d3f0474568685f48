import KeyChange.Fee
import KeyChange.Proofs.Packing

namespace KeyChange.Fee

open DecimalFloat

variable {a b fee fee' : Amount}

def exponent (data : Bytes 2) : Nat := (layout.scaled data.toNat).exponent

/-- The bytes of a fee are those that packing would choose: no lesser exponent would do. -/
def IsReduced (data : Bytes 2) : Prop := (layout.scaled data.toNat).IsReduced layout

instance (data : Bytes 2) : Decidable (IsReduced data) :=
  inferInstanceAs (Decidable ((layout.scaled data.toNat).IsReduced layout))

theorem supported_layout : layout.Supported := by decide

theorem value_le_maximum (data : Bytes 2) : (layout.scaled data.toNat).value ≤ maximum := by
  have fits := supported_layout.fits_bytes data
  calc (layout.scaled data.toNat).value ≤ layout.maxMantissa * 10 ^ layout.maxExponent :=
        Nat.mul_le_mul fits.mantissa_le (Nat.pow_le_pow_right (by omega) fits.exponent_le)
    _ = maximum := by decide

theorem unpack_le_maximum {data : Bytes 2} {fee : Amount} (h : unpack data.toList = some fee) :
    fee.val ≤ maximum := by
  obtain ⟨-, -, hvalue⟩ := unpack_eq_some_iff (l := layout).mp h
  rw [← hvalue]
  exact value_le_maximum data

/-- Two bytes always stand for a fee, as the largest fee is an amount. -/
theorem exists_unpack (data : Bytes 2) : ∃ fee, unpack data.toList = some fee := by
  have fits := supported_layout.fits_bytes data
  have hcount : (layout.scaled data.toNat).exponent < powerCount :=
    Nat.lt_of_le_of_lt fits.exponent_le (by decide)
  have hvalue : (layout.scaled data.toNat).value < 2 ^ (128 : Nat) :=
    Nat.lt_of_le_of_lt (value_le_maximum data) (by decide)
  exact ⟨⟨_, hvalue⟩, unpack_eq_some_iff.mpr ⟨supported_layout, hcount, rfl⟩⟩

theorem exists_pack {data : Bytes 2} {fee : Amount} (h : unpack data.toList = some fee) :
    ∃ packed, pack fee = .ok packed ∧ IsReduced packed ∧ unpack packed.toList = some fee ∧
      (packed = data ↔ IsReduced data) :=
  exists_pack_of_unpack (l := layout) h

theorem eq_iff_exponent_eq {a b : Bytes 2} {fee : Amount} (ha : unpack a.toList = some fee)
    (hb : unpack b.toList = some fee) : a = b ↔ exponent a = exponent b := by
  constructor
  · rintro rfl
    rfl
  · intro h
    obtain ⟨-, -, hva⟩ := unpack_eq_some_iff (l := layout).mp ha
    obtain ⟨-, -, hvb⟩ := unpack_eq_some_iff (l := layout).mp hb
    exact Layout.scaled_injective (Scaled.eq_of_exponent_eq (hva.trans hvb.symm) h)

theorem eq_of_isReduced {a b : Bytes 2} {fee : Amount} (ha : unpack a.toList = some fee)
    (hb : unpack b.toList = some fee) (reducedA : IsReduced a) (reducedB : IsReduced b) :
    a = b := by
  obtain ⟨packed, hpack, -, -, hiff⟩ := exists_pack ha
  obtain ⟨packed', hpack', -, -, hiff'⟩ := exists_pack hb
  rw [hpack] at hpack'
  cases hpack'
  rw [← hiff.mpr reducedA, hiff'.mpr reducedB]

theorem pack_eq_error_iff {f : Fault} :
    pack a = .error f ↔ maximum < a.val ∧ f = .outOfRange a.val 16 := by
  have hreached : ¬layout.maxMantissa * maxPower < a.val := by
    have hlimit : 2 ^ (128 : Nat) ≤ layout.maxMantissa * maxPower := by decide
    have := a.isLt
    omega
  have hgreatest : layout.greatest = maximum := by decide
  have hbits : layout.bits = 16 := rfl
  have hiff := DecimalFloat.pack_eq_error_iff (l := layout) (a := a) (f := f)
  simp only [supported_layout, hgreatest, hbits, hreached, not_true_eq_false, false_and, and_false,
    true_and, false_or, or_false] at hiff
  exact hiff

theorem exists_pack_iff : (∃ packed, pack a = .ok packed) ↔ a.val ≤ maximum := by
  cases h : pack a with
  | ok packed =>
    refine iff_of_true ⟨packed, rfl⟩ (Nat.le_of_not_lt fun hlt => ?_)
    rw [pack_eq_error_iff.mpr ⟨hlt, rfl⟩] at h
    cases h
  | error f =>
    have hlt := (pack_eq_error_iff.mp h).1
    simp only [reduceCtorEq, exists_false, false_iff]
    omega

theorem exists_unpack_of_pack {packed : Bytes 2} (h : pack a = .ok packed) :
    ∃ fee, unpack packed.toList = some fee ∧ fee.val ≤ a.val ∧
      ∀ s : Scaled, s.Fits layout → s.value ≤ a.val → s.value ≤ fee.val := by
  obtain ⟨e, hcount, hround⟩ := rounded_of_pack (l := layout) h
  refine ⟨⟨_, Nat.lt_of_le_of_lt hround.value_le a.isLt⟩, ?_, hround.value_le, ?_⟩
  · exact unpack_eq_some_iff.mpr
      ⟨supported_layout, Nat.lt_of_le_of_lt hround.exponent_le hcount, rfl⟩
  · intro s fits hs
    exact hround.greatest fits.mantissa_le hs

theorem closest_eq_ok_iff :
    closest a = .ok fee ↔ ∃ packed, pack a = .ok packed ∧ unpack packed.toList = some fee := by
  unfold closest
  split
  next f h => simp [h]
  next packed h =>
    obtain ⟨fee', hunpack, -⟩ := exists_unpack_of_pack h
    simp [h, hunpack]

/-- The bytes of a packed amount always stand for a fee, so that none is lost. -/
theorem closest_eq_error_iff {f : ClosestFault} :
    closest a = .error f ↔ maximum < a.val ∧ f = .packing (.outOfRange a.val 16) := by
  unfold closest
  split
  next fault h =>
    obtain ⟨hlt, rfl⟩ := pack_eq_error_iff.mp h
    simp [hlt, eq_comm]
  next packed h =>
    obtain ⟨fee, hunpack, -⟩ := exists_unpack_of_pack h
    have hle := exists_pack_iff.mp ⟨packed, h⟩
    simp only [hunpack, reduceCtorEq, false_iff]
    omega

theorem exists_closest_iff : (∃ fee, closest a = .ok fee) ↔ a.val ≤ maximum := by
  rw [← exists_pack_iff]
  constructor
  · rintro ⟨fee, h⟩
    obtain ⟨packed, hpack, -⟩ := closest_eq_ok_iff.mp h
    exact ⟨packed, hpack⟩
  · rintro ⟨packed, hpack⟩
    obtain ⟨fee, hunpack, -⟩ := exists_unpack_of_pack hpack
    exact ⟨fee, closest_eq_ok_iff.mpr ⟨packed, hpack, hunpack⟩⟩

theorem isPackable_iff_exists_unpack :
    isPackable a = true ↔ ∃ data : Bytes 2, unpack data.toList = some a := by
  unfold isPackable
  constructor
  · intro h
    split at h
    next => simp at h
    next =>
      split at h
      next => simp at h
      next packed hpack => exact ⟨packed, by simpa using h⟩
  · rintro ⟨data, hdata⟩
    obtain ⟨packed, hpack, -, hunpack, -⟩ := exists_pack hdata
    rw [if_neg (Nat.not_lt.mpr (unpack_le_maximum hdata)), hpack]
    simp [hunpack]

theorem isPackable_iff_exists_fits :
    isPackable a = true ↔ ∃ s : Scaled, s.Fits layout ∧ s.value = a.val := by
  rw [isPackable_iff_exists_unpack]
  constructor
  · rintro ⟨data, hdata⟩
    exact ⟨_, supported_layout.fits_bytes data, (unpack_eq_some_iff (l := layout).mp hdata).2.2⟩
  · rintro ⟨s, fits, hvalue⟩
    have hcount : s.exponent < powerCount := Nat.lt_of_le_of_lt fits.exponent_le (by decide)
    obtain ⟨packed, -, -, hunpack⟩ := fits.exists_pack supported_layout hcount hvalue
    exact ⟨packed, hunpack⟩

theorem isPackable_iff :
    isPackable a = true ↔ ∃ m e : Nat, m ≤ 2047 ∧ e ≤ 31 ∧ a.val = m * 10 ^ e := by
  rw [isPackable_iff_exists_fits]
  constructor
  · rintro ⟨s, fits, hvalue⟩
    exact ⟨s.mantissa, s.exponent, fits.mantissa_le, fits.exponent_le, hvalue.symm⟩
  · rintro ⟨m, e, hm, he, hvalue⟩
    exact ⟨⟨m, e⟩, ⟨hm, he⟩, hvalue.symm⟩

theorem le_of_closest (h : closest a = .ok fee) : fee ≤ a := by
  obtain ⟨packed, hpack, hunpack⟩ := closest_eq_ok_iff.mp h
  obtain ⟨v, hv, hle, -⟩ := exists_unpack_of_pack hpack
  cases hunpack.symm.trans hv
  exact hle

theorem isPackable_of_closest (h : closest a = .ok fee) : isPackable fee = true := by
  obtain ⟨packed, -, hunpack⟩ := closest_eq_ok_iff.mp h
  exact isPackable_iff_exists_unpack.mpr ⟨packed, hunpack⟩

theorem le_closest_of_isPackable (h : closest a = .ok fee) (hb : isPackable b = true)
    (hle : b ≤ a) : b ≤ fee := by
  obtain ⟨packed, hpack, hunpack⟩ := closest_eq_ok_iff.mp h
  obtain ⟨v, hv, -, hgreatest⟩ := exists_unpack_of_pack hpack
  cases hunpack.symm.trans hv
  obtain ⟨s, fits, hvalue⟩ := isPackable_iff_exists_fits.mp hb
  have hs : s.value ≤ a.val := by
    rw [hvalue]
    exact hle
  have hfee : s.value ≤ fee.val := hgreatest s fits hs
  rw [hvalue] at hfee
  exact hfee

theorem closest_mono (hle : a ≤ b) (ha : closest a = .ok fee) (hb : closest b = .ok fee') :
    fee ≤ fee' :=
  le_closest_of_isPackable hb (isPackable_of_closest ha) (Nat.le_trans (le_of_closest ha) hle)

theorem closest_of_isPackable (h : isPackable a = true) : closest a = .ok a := by
  obtain ⟨data, hdata⟩ := isPackable_iff_exists_unpack.mp h
  obtain ⟨packed, hpack, -, hunpack, -⟩ := exists_pack hdata
  exact closest_eq_ok_iff.mpr ⟨packed, hpack, hunpack⟩

/-- The amounts up to the largest fee are rounded down to the greatest fee that can be packed, which
keeps their order and fixes the fees themselves. All other amounts are refused. -/
theorem closest_is_greatest_packable (a : Amount) :
    ((∃ packed, pack a = .ok packed) ↔ a.val ≤ maximum) ∧
    ((∃ fee, closest a = .ok fee) ↔ a.val ≤ maximum) ∧
    (maximum < a.val → pack a = .error (.outOfRange a.val 16) ∧
      closest a = .error (.packing (.outOfRange a.val 16))) ∧
    (∀ fee, closest a = .ok fee →
      (fee ≤ a ∧ isPackable fee = true ∧ ∀ x ≤ a, isPackable x = true → x ≤ fee) ∧
      closest fee = .ok fee ∧
      ∀ b fee', a ≤ b → closest b = .ok fee' → fee ≤ fee') ∧
    (isPackable a = true ↔ ∃ m e : Nat, m ≤ 2047 ∧ e ≤ 31 ∧ a.val = m * 10 ^ e) := by
  refine ⟨exists_pack_iff, exists_closest_iff, fun hlt => ?_, fun fee h => ?_, isPackable_iff⟩
  · exact ⟨pack_eq_error_iff.mpr ⟨hlt, rfl⟩, closest_eq_error_iff.mpr ⟨hlt, rfl⟩⟩
  · have hpackable := isPackable_of_closest h
    refine ⟨⟨le_of_closest h, hpackable, fun x hle hx => le_closest_of_isPackable h hx hle⟩,
      closest_of_isPackable hpackable, fun b fee' hle hb => closest_mono hle h hb⟩

end KeyChange.Fee
