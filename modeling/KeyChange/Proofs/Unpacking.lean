import KeyChange.Proofs.Packing

namespace KeyChange.DecimalFloat

variable {l : Layout} {s t : Scaled} {data other : List UInt8} {a : Amount}

/-- The bytes are the word of a mantissa and an exponent. -/
structure Layout.Spells (l : Layout) (data : List UInt8) (s : Scaled) : Prop where
  length_eq : data.length * 8 = l.bits
  fits : s.Fits l
  number_eq : ofBigEndian data = l.word s

theorem Layout.Spells.scaled_eq (h : l.Spells data s) : l.scaled (ofBigEndian data) = s := by
  rw [h.number_eq]
  exact scaled_word h.fits

theorem Layout.Spells.unique (h : l.Spells data s) (hother : l.Spells other s) :
    data = other := by
  have hlen : data.length = other.length := by
    have := h.length_eq
    have := hother.length_eq
    omega
  rw [← bigEndian_ofBigEndian data, ← bigEndian_ofBigEndian other, hlen, h.number_eq,
    hother.number_eq]

theorem Layout.spells_of_length_eq (h : data.length * 8 = l.bits) :
    l.Spells data (l.scaled (ofBigEndian data)) := by
  have hlt : ofBigEndian data < 2 ^ l.bits := by
    have := ofBigEndian_lt data
    rwa [show (256 : Nat) = 2 ^ (8 : Nat) from rfl, ← Nat.pow_mul, Nat.mul_comm, h] at this
  exact ⟨h, fits_scaled hlt, (word_scaled _).symm⟩

theorem Layout.Spells.unpack_eq (supported : l.Supported) (h : l.Spells data s) :
    unpack l data = s.amount? := by
  rw [unpack, if_pos ⟨supported, h.length_eq⟩, h.scaled_eq]

theorem exists_spells_of_unpack (h : unpack l data = some a) :
    l.Supported ∧ ∃ s, l.Spells data s ∧ s.exponent < powerCount ∧ s.value = a.val := by
  unfold unpack at h
  split at h
  next hlayout =>
    exact ⟨hlayout.1, _, Layout.spells_of_length_eq hlayout.2, Scaled.amount?_eq_some_iff.mp h⟩
  next => simp at h

/-- The power of ten is an amount itself, unless it is multiplied by zero. -/
theorem Scaled.exponent_lt_powerCount (hm : s.mantissa ≠ 0) (h : s.value < 2 ^ (128 : Nat)) :
    s.exponent < powerCount := by
  have hvalue : 10 ^ s.exponent ≤ s.value := Nat.le_mul_of_pos_left _ (by omega)
  exact pow_lt_iff.mp (Nat.lt_of_le_of_lt hvalue h)

theorem Scaled.amount?_eq_none_iff :
    s.amount? = none ↔ 2 ^ (128 : Nat) ≤ s.value ∨ s.mantissa = 0 ∧ powerCount ≤ s.exponent := by
  rw [Option.eq_none_iff_forall_ne_some]
  constructor
  · intro hnone
    by_cases hlarge : 2 ^ (128 : Nat) ≤ s.value
    · exact Or.inl hlarge
    · have hlt : s.value < 2 ^ (128 : Nat) := Nat.lt_of_not_le hlarge
      have hcount : powerCount ≤ s.exponent := by
        apply Nat.le_of_not_lt
        intro hexponent
        exact hnone ⟨s.value, hlt⟩ (amount?_eq_some_iff.mpr ⟨hexponent, rfl⟩)
      refine Or.inr ⟨?_, hcount⟩
      apply Decidable.byContradiction
      intro hm
      exact Nat.not_lt.mpr hcount (exponent_lt_powerCount hm hlt)
  · intro hnone a hsome
    obtain ⟨hexponent, hvalue⟩ := amount?_eq_some_iff.mp hsome
    have := a.isLt
    omega

/-- Bytes give the value that they spell if it is an amount, and nothing only if it is none. -/
def UnpacksExactly (l : Layout) (data : List UInt8) : Prop :=
  ∃ s, l.Spells data s ∧
    (∀ h : s.value < 2 ^ (128 : Nat), unpack l data = some ⟨s.value, h⟩) ∧
    (unpack l data = none → 2 ^ (128 : Nat) ≤ s.value)

/-- The bytes spell zero with a power of ten that is no amount. -/
def LosesZero (l : Layout) (data : List UInt8) : Prop :=
  ∃ s, l.Spells data s ∧ s.mantissa = 0 ∧ powerCount ≤ s.exponent

theorem LosesZero.unpack_eq (supported : l.Supported) (h : LosesZero l data) :
    unpack l data = none := by
  obtain ⟨s, hs, hzero, hcount⟩ := h
  rw [hs.unpack_eq supported]
  exact Scaled.amount?_eq_none_iff.mpr (Or.inr ⟨hzero, hcount⟩)

theorem LosesZero.not_unpacksExactly (supported : l.Supported) (h : LosesZero l data) :
    ¬UnpacksExactly l data := by
  rintro ⟨t, ht, -, hnone⟩
  have hlarge := hnone (h.unpack_eq supported)
  obtain ⟨s, hs, hzero, -⟩ := h
  have hts : t = s := ht.scaled_eq.symm.trans hs.scaled_eq
  simp [Scaled.value, hts, hzero] at hlarge

theorem Layout.Spells.unpacksExactly (supported : l.Supported) (h : l.Spells data s)
    (hkept : ¬(s.mantissa = 0 ∧ powerCount ≤ s.exponent)) : UnpacksExactly l data := by
  refine ⟨s, h, fun hlt => ?_, fun hnone => ?_⟩
  · rw [h.unpack_eq supported]
    cases hamount : s.amount? with
    | none =>
      have := Scaled.amount?_eq_none_iff.mp hamount
      omega
    | some a => exact congrArg some (Fin.ext (Scaled.amount?_eq_some_iff.mp hamount).2.symm)
  · rw [h.unpack_eq supported] at hnone
    exact (Scaled.amount?_eq_none_iff.mp hnone).resolve_right hkept

theorem not_losesZero (hbits : l.exponentBits ≤ 5) : ¬LosesZero l data := by
  rintro ⟨s, hs, -, hcount⟩
  have hpower : 2 ^ l.exponentBits ≤ 2 ^ (5 : Nat) := Nat.pow_le_pow_right (by omega) hbits
  have hexponent := hs.fits.exponent_le
  simp only [Layout.maxExponent, powerCount] at hexponent hcount
  omega

/-- Unpacking is exact but for the zeros that are lost. -/
theorem unpacks_exactly_iff (supported : l.Supported) (hlen : data.length * 8 = l.bits) :
    (UnpacksExactly l data ↔ ¬LosesZero l data) ∧ (l.exponentBits ≤ 5 → UnpacksExactly l data) := by
  have hs := Layout.spells_of_length_eq hlen
  have hiff : UnpacksExactly l data ↔ ¬LosesZero l data := by
    constructor
    · intro hexact hlost
      exact hlost.not_unpacksExactly supported hexact
    · intro hkept
      exact hs.unpacksExactly supported fun hzero => hkept ⟨_, hs, hzero⟩
  exact ⟨hiff, fun hbits => hiff.mpr (not_losesZero hbits)⟩

theorem unpacks_exactly_of_wide_mantissa :
    let l : Layout := ⟨8, 56⟩
    let data : List UInt8 := [0x78, 0xe4, 0x80, 0x40, 0x5d, 0x7b, 0x96, 0x16]
    (l.Supported ∧ data.length * 8 = l.bits) ∧
    (UnpacksExactly l data ↔ ¬LosesZero l data) ∧
      (l.exponentBits ≤ 5 → UnpacksExactly l data) := by
  intro l data
  have supported : l.Supported := by decide
  have hlen : data.length * 8 = l.bits := rfl
  exact ⟨⟨supported, hlen⟩, unpacks_exactly_iff supported hlen⟩

/-- Zero times `10 ^ 39` is zero, and nothing is unpacked. -/
theorem zero_is_lost :
    let l : Layout := ⟨8, 56⟩
    let data : List UInt8 := [0, 0, 0, 0, 0, 0, 0, 39]
    (l.Supported ∧ data.length * 8 = l.bits) ∧ l.Spells data ⟨0, 39⟩ ∧
      Scaled.value ⟨0, 39⟩ < 2 ^ (128 : Nat) ∧ unpack l data = none ∧ ¬UnpacksExactly l data := by
  intro l data
  have supported : l.Supported := by decide
  have hs : l.Spells data ⟨0, 39⟩ := ⟨rfl, ⟨by decide, by decide⟩, rfl⟩
  have hlost : LosesZero l data := ⟨_, hs, rfl, Nat.le_refl _⟩
  exact ⟨⟨supported, rfl⟩, hs, by decide, hlost.unpack_eq supported,
    hlost.not_unpacksExactly supported⟩

def repack? (l : Layout) (data : List UInt8) : Option (Bytes l.width) :=
  (unpack l data).bind fun a => (pack l a).toOption

/-- What was unpacked is packed again without loss, into the word of the least exponent. All words of the
value are packed again into this one, itself included. -/
theorem repacked_in_normal_form (h : unpack l data = some a) :
    ∃ packed : Bytes l.width, pack l a = .ok packed ∧ unpack l packed.toList = some a ∧
      (∀ other, unpack l other = some a → repack? l other = some packed) ∧
      ∃ s, l.Spells packed.toList s ∧ s.value = a.val ∧
        ∀ other t, l.Spells other t → t.value = a.val →
          s.exponent ≤ t.exponent ∧ (s.exponent = t.exponent → other = packed.toList) := by
  obtain ⟨supported, s, hs, hcount, hvalue⟩ := exists_spells_of_unpack h
  obtain ⟨packed, hpack, reduced, hunpack⟩ := hs.fits.exists_pack supported hcount hvalue
  obtain ⟨-, r, hr, -, hrvalue⟩ := exists_spells_of_unpack hunpack
  have hreduced : r.IsReduced l := hr.scaled_eq ▸ reduced
  refine ⟨packed, hpack, hunpack, ?_, r, hr, hrvalue, ?_⟩
  · intro other hother
    simp [repack?, hother, hpack, Except.toOption]
  · intro other t ht htvalue
    have heq : r.value = t.value := hrvalue.trans htvalue.symm
    refine ⟨hreduced.exponent_le ht.fits heq, fun hexponent => ?_⟩
    have hrt : r = t := Scaled.eq_of_exponent_eq heq hexponent
    exact ht.unique (hrt ▸ hr)

theorem repacked_in_normal_form_of_ten :
    let l : Layout := ⟨5, 11⟩
    let data : List UInt8 := [0x00, 0x21]
    unpack l data = some 10 ∧
    ∃ packed : Bytes l.width, pack l 10 = .ok packed ∧ unpack l packed.toList = some 10 ∧
      (∀ other, unpack l other = some 10 → repack? l other = some packed) ∧
      ∃ s, l.Spells packed.toList s ∧ s.value = (10 : Amount).val ∧
        ∀ other t, l.Spells other t → t.value = (10 : Amount).val →
          s.exponent ≤ t.exponent ∧ (s.exponent = t.exponent → other = packed.toList) := by
  have h : unpack ⟨5, 11⟩ [0x00, 0x21] = some 10 := rfl
  exact ⟨h, repacked_in_normal_form h⟩

end KeyChange.DecimalFloat
