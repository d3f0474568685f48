import KeyChange.Proofs.DecimalFloat

namespace KeyChange.DecimalFloat

variable {l : Layout} {s : Scaled} {a : Amount} {m e : Nat}

theorem Layout.ofWidths?_eq_some_iff {exponentBits mantissaBits : UInt64} :
    ofWidths? exponentBits mantissaBits = some l ↔
      exponentBits.toNat + mantissaBits.toNat < 2 ^ (64 : Nat) ∧
      l = ⟨exponentBits.toNat, mantissaBits.toNat⟩ := by
  unfold ofWidths?
  dsimp only
  split
  next h => exact ⟨fun hl => ⟨h, (Option.some.inj hl).symm⟩, fun hl => congrArg some hl.2.symm⟩
  next h => exact ⟨fun hl => by simp at hl, fun hl => absurd hl.1 h⟩

/-- The greatest value of a layout, with nothing cut off. -/
def Layout.greatest (l : Layout) : Nat := l.maxMantissa * 10 ^ l.maxExponent

def maxPower : Nat := 10 ^ (38 : Nat)

theorem pow_lt_iff : 10 ^ e < 2 ^ (128 : Nat) ↔ e < powerCount := by
  constructor
  · intro h
    apply Nat.lt_of_not_le
    intro hle
    have hpower : 10 ^ powerCount ≤ 10 ^ e := Nat.pow_le_pow_right (by omega) hle
    have hlarge : 2 ^ (128 : Nat) ≤ 10 ^ powerCount := by decide
    omega
  · intro h
    have hpower : 10 ^ e ≤ maxPower := Nat.pow_le_pow_right (by omega) (Nat.le_of_lt_succ h)
    exact Nat.lt_of_le_of_lt hpower (by decide)

theorem leastExponent?_eq_none_iff {a : Nat} : leastExponent? m a = none ↔ m * maxPower < a := by
  simp only [leastExponent?, List.find?_eq_none, List.mem_range, decide_eq_true_eq, Nat.not_le]
  constructor
  · intro h
    exact h 38 (by decide)
  · intro h e he
    have hpower : 10 ^ e ≤ maxPower := Nat.pow_le_pow_right (by omega) (Nat.le_of_lt_succ he)
    exact Nat.lt_of_le_of_lt (Nat.mul_le_mul_left m hpower) h

/-- No amount lies between the limit of a layout and its greatest value, which may be no amount. -/
theorem Layout.limit_lt_iff : l.limit < a.val ↔ l.greatest < a.val := by
  have ha : a.val ≤ maxAmount := Nat.le_of_lt_succ a.isLt
  unfold limit greatest
  cases hp : power? l.maxExponent with
  | some p =>
    obtain ⟨-, rfl⟩ := power?_eq_some_iff.mp hp
    simp only [Option.getD_some]
    omega
  | none =>
    have hexponent : powerCount ≤ l.maxExponent := by
      apply Nat.le_of_not_lt
      intro hlt
      simp [power?, hlt] at hp
    have hpower : maxAmount ≤ 10 ^ l.maxExponent :=
      Nat.le_trans (by decide) (Nat.pow_le_pow_right (by omega) hexponent)
    simp only [Option.getD_none]
    cases l.maxMantissa with
    | zero => simp
    | succ m =>
      have hcut : maxAmount ≤ (m + 1) * maxAmount := Nat.le_mul_of_pos_left _ (by omega)
      have hfull : 10 ^ l.maxExponent ≤ (m + 1) * 10 ^ l.maxExponent :=
        Nat.le_mul_of_pos_left _ (by omega)
      omega

theorem pack_eq_ok_iff {packed : Bytes l.width} :
    pack l a = .ok packed ↔ l.Supported ∧ a.val ≤ l.greatest ∧
      ∃ e, leastExponent? l.maxMantissa a.val = some e ∧
        packed = Bytes.ofNat l.width (l.word (round l.maxMantissa a.val e)) := by
  unfold pack
  split
  next hlayout => simp [hlayout]
  next hlayout =>
    rw [Decidable.not_not] at hlayout
    split
    next hrange =>
      have := Layout.limit_lt_iff.mp hrange
      simp only [reduceCtorEq, false_iff]
      omega
    next hrange =>
      have hle : a.val ≤ l.greatest := Nat.le_of_not_lt (mt Layout.limit_lt_iff.mpr hrange)
      split
      next hnone => simp [hnone]
      next e he => simp [hlayout, hle, he, eq_comm]

/-- The faults of packing, each with what it is due to. -/
theorem pack_eq_error_iff {f : Fault} :
    pack l a = .error f ↔
      ¬l.Supported ∧ f = .unsupported l ∨
      l.Supported ∧ l.greatest < a.val ∧ f = .outOfRange a.val l.bits ∨
      l.Supported ∧ a.val ≤ l.greatest ∧ l.maxMantissa * maxPower < a.val ∧
        f = .scaleOverflow a.val := by
  unfold pack
  split
  next hlayout => simp [hlayout, eq_comm]
  next hlayout =>
    rw [Decidable.not_not] at hlayout
    split
    next hrange =>
      have hlt := Layout.limit_lt_iff.mp hrange
      simp [hlayout, hlt, Nat.not_le.mpr hlt, eq_comm]
    next hrange =>
      have hle : a.val ≤ l.greatest := Nat.le_of_not_lt (mt Layout.limit_lt_iff.mpr hrange)
      split
      next hnone =>
        simp [hlayout, hle, Nat.not_lt.mpr hle, leastExponent?_eq_none_iff.mp hnone, eq_comm]
      next e he =>
        have hreached : ¬l.maxMantissa * maxPower < a.val := by
          rw [← leastExponent?_eq_none_iff, he]
          simp
        simp [hlayout, Nat.not_lt.mpr hle, hreached]

theorem round_fits {a : Nat} (hle : a ≤ l.greatest) (h : leastExponent? l.maxMantissa a = some e) :
    (round l.maxMantissa a e).Fits l := by
  have hround := rounded_of_leastExponent h
  have hexponent : e ≤ l.maxExponent := by
    apply Nat.le_of_not_lt
    intro hlt
    exact Nat.not_lt.mpr hle ((leastExponent?_eq_some_iff.mp h).2.2 l.maxExponent hlt)
  exact ⟨hround.mantissa_le, Nat.le_trans hround.exponent_le hexponent⟩

theorem rounded_of_pack {packed : Bytes l.width} (h : pack l a = .ok packed) :
    ∃ e, e < powerCount ∧ Rounded l.maxMantissa a.val e (l.scaled packed.toNat) := by
  obtain ⟨supported, hle, e, he, rfl⟩ := pack_eq_ok_iff.mp h
  rw [supported.scaled_ofNat (round_fits hle he)]
  exact ⟨e, (leastExponent?_eq_some_iff.mp he).1, rounded_of_leastExponent he⟩

theorem unpack_eq_some_iff {data : Bytes l.width} {a : Amount} :
    unpack l data.toList = some a ↔ l.Supported ∧
      (l.scaled data.toNat).exponent < powerCount ∧ (l.scaled data.toNat).value = a.val := by
  unfold unpack
  split
  next h => exact Scaled.amount?_eq_some_iff.trans (by simp [h.1, Bytes.toNat])
  next h =>
    have hsupported : ¬l.Supported := by
      intro supported
      have := supported.1
      refine h ⟨supported, ?_⟩
      rw [data.length_toList, Layout.width]
      omega
    simp [hsupported]

theorem Scaled.Fits.exists_pack (supported : l.Supported) (fits : s.Fits l)
    (hcount : s.exponent < powerCount) (h : s.value = a.val) :
    ∃ packed, pack l a = .ok packed ∧ (l.scaled packed.toNat).IsReduced l ∧
      unpack l packed.toList = some a := by
  have hle : a.val ≤ l.greatest := by
    rw [← h]
    exact Scaled.value_le fits.mantissa_le fits.exponent_le
  obtain ⟨e, -, he⟩ := fits.exists_leastExponent hcount
  rw [h] at he
  have hpack := pack_eq_ok_iff.mpr ⟨supported, hle, e, he, rfl⟩
  obtain ⟨e', hcount', hround⟩ := rounded_of_pack hpack
  have hvalue := Nat.le_antisymm hround.value_le
    (h ▸ hround.greatest fits.mantissa_le (Nat.le_of_eq h))
  exact ⟨_, hpack, hround.isReduced, unpack_eq_some_iff.mpr
    ⟨supported, Nat.lt_of_le_of_lt hround.exponent_le hcount', hvalue⟩⟩

theorem exists_pack_of_unpack {data : Bytes l.width} {a : Amount}
    (h : unpack l data.toList = some a) :
    ∃ packed, pack l a = .ok packed ∧ (l.scaled packed.toNat).IsReduced l ∧
      unpack l packed.toList = some a ∧ (packed = data ↔ (l.scaled data.toNat).IsReduced l) := by
  obtain ⟨supported, hcount, hvalue⟩ := unpack_eq_some_iff.mp h
  obtain ⟨packed, hpack, reduced, hunpack⟩ :=
    (supported.fits_bytes data).exists_pack supported hcount hvalue
  refine ⟨packed, hpack, reduced, hunpack, ?_, ?_⟩
  · rintro rfl
    exact reduced
  · intro hdata
    apply Layout.scaled_injective
    exact reduced.unique hdata (supported.fits_bytes packed) (supported.fits_bytes data)
      ((unpack_eq_some_iff.mp hunpack).2.2.trans hvalue.symm)

/-- A packed amount has become the greatest value of the layout that is not above it. -/
theorem pack_rounds_down {packed : Bytes l.width} (h : pack l a = .ok packed) :
    packed.toList.length = (l.exponentBits + l.mantissaBits) / 8 ∧
    ∃ v, unpack l packed.toList = some v ∧ v.val ≤ a.val ∧
      (∃ m e : Nat, m < 2 ^ l.mantissaBits ∧ e < 2 ^ l.exponentBits ∧ m * 10 ^ e = v.val) ∧
      ∀ m e : Nat, m < 2 ^ l.mantissaBits → e < 2 ^ l.exponentBits →
        m * 10 ^ e ≤ a.val → m * 10 ^ e ≤ v.val := by
  obtain ⟨supported, -⟩ := pack_eq_ok_iff.mp h
  obtain ⟨e, hcount, hround⟩ := rounded_of_pack h
  have fits := supported.fits_bytes packed
  let v : Amount := ⟨(l.scaled packed.toNat).value, Nat.lt_of_le_of_lt hround.value_le a.isLt⟩
  have hunpack : unpack l packed.toList = some v :=
    unpack_eq_some_iff.mpr ⟨supported, Nat.lt_of_le_of_lt hround.exponent_le hcount, rfl⟩
  refine ⟨packed.length_toList, v, hunpack, hround.value_le, ?_, ?_⟩
  · exact ⟨_, _, Nat.lt_of_le_pred (Nat.two_pow_pos _) fits.mantissa_le,
      Nat.lt_of_le_pred (Nat.two_pow_pos _) fits.exponent_le, rfl⟩
  · intro m e hm _ hle
    exact hround.greatest (s := ⟨m, e⟩) (Nat.le_pred_of_lt hm) hle

theorem pack_largest_rounds_down :
    let l : Layout := ⟨8, 56⟩
    let a : Amount := ⟨maxAmount, by decide⟩
    let packed : Bytes l.width := ⟨[0x78, 0xe4, 0x80, 0x40, 0x5d, 0x7b, 0x96, 0x16], by decide⟩
    pack l a = .ok packed ∧
    packed.toList.length = (l.exponentBits + l.mantissaBits) / 8 ∧
    ∃ v, unpack l packed.toList = some v ∧ v.val ≤ a.val ∧
      (∃ m e : Nat, m < 2 ^ l.mantissaBits ∧ e < 2 ^ l.exponentBits ∧ m * 10 ^ e = v.val) ∧
      ∀ m e : Nat, m < 2 ^ l.mantissaBits → e < 2 ^ l.exponentBits →
        m * 10 ^ e ≤ a.val → m * 10 ^ e ≤ v.val := by
  have h : pack ⟨8, 56⟩ ⟨maxAmount, by decide⟩ =
      .ok ⟨[0x78, 0xe4, 0x80, 0x40, 0x5d, 0x7b, 0x96, 0x16], by decide⟩ := rfl
  exact ⟨h, pack_rounds_down h⟩

/-- The amount is within the layout, but no exponent is found for it: a mantissa of one or two bits does
not reach it with the largest power of ten that is an amount. -/
def Layout.FallsShort (l : Layout) (a : Amount) : Prop :=
  l.Supported ∧ (l.mantissaBits = 1 ∨ l.mantissaBits = 2) ∧ l.maxMantissa * maxPower < a.val

instance (l : Layout) (a : Amount) : Decidable (l.FallsShort a) := by
  unfold Layout.FallsShort
  infer_instance

theorem Layout.FallsShort.le_greatest (h : l.FallsShort a) : a.val ≤ l.greatest := by
  obtain ⟨⟨hbytes, -⟩, hnarrow, -⟩ := h
  have hexponent : 6 ≤ l.exponentBits := by
    simp only [bits] at hbytes
    omega
  have hpower : 2 ^ (6 : Nat) ≤ 2 ^ l.exponentBits := Nat.pow_le_pow_right (by omega) hexponent
  have hmantissa : 1 ≤ l.maxMantissa := by
    rcases hnarrow with hbits | hbits <;> simp [maxMantissa, hbits]
  calc a.val ≤ 1 * 10 ^ (63 : Nat) := Nat.le_trans (Nat.le_of_lt a.isLt) (by decide)
    _ ≤ l.maxMantissa * 10 ^ l.maxExponent :=
      Nat.mul_le_mul hmantissa
        (Nat.pow_le_pow_right (by omega) (by simp only [maxExponent]; omega))

theorem Layout.fallsShort_iff :
    l.FallsShort a ↔ l.Supported ∧ a.val ≤ l.greatest ∧ l.maxMantissa * maxPower < a.val := by
  constructor
  · intro h
    exact ⟨h.1, h.le_greatest, h.2.2⟩
  · rintro ⟨supported, hle, hlt⟩
    refine ⟨supported, ?_, hlt⟩
    have hsome : l.mantissaBits ≠ 0 := by
      intro hbits
      simp [greatest, maxMantissa, hbits] at hle hlt
      omega
    have hfew : l.mantissaBits < 3 := by
      apply Nat.lt_of_not_le
      intro hbits
      have hpow : 2 ^ (3 : Nat) ≤ 2 ^ l.mantissaBits := Nat.pow_le_pow_right (by omega) hbits
      have hmantissa : 7 ≤ l.maxMantissa := by
        simp only [maxMantissa]
        omega
      have hreached : 2 ^ (128 : Nat) ≤ l.maxMantissa * maxPower :=
        Nat.le_trans (by decide) (Nat.mul_le_mul_right maxPower hmantissa)
      have := a.isLt
      omega
    omega

theorem Layout.FallsShort.pack_eq (h : l.FallsShort a) :
    pack l a = .error (.scaleOverflow a.val) :=
  pack_eq_error_iff.mpr (Or.inr (Or.inr ⟨h.1, h.le_greatest, h.2.2, rfl⟩))

/-- The widths make a layout, and packing in it has a result just for the amounts that are not above the
greatest value of a supported layout, and a fault for all others. -/
def PacksWhatFits (exponentBits mantissaBits : UInt64) (a : Amount) : Prop :=
  ∃ l, Layout.ofWidths? exponentBits mantissaBits = some l ∧
    (l.Supported ∧ a.val ≤ l.greatest → ∃ packed, pack l a = .ok packed) ∧
    (¬(l.Supported ∧ a.val ≤ l.greatest) → ∃ f, pack l a = .error f)

theorem Layout.FallsShort.not_packsWhatFits {exponentBits mantissaBits : UInt64}
    (h : FallsShort ⟨exponentBits.toNat, mantissaBits.toNat⟩ a) :
    ¬PacksWhatFits exponentBits mantissaBits a := by
  rintro ⟨l, hlayout, hfits, -⟩
  obtain ⟨-, rfl⟩ := ofWidths?_eq_some_iff.mp hlayout
  obtain ⟨packed, hpack⟩ := hfits ⟨h.1, h.le_greatest⟩
  rw [h.pack_eq] at hpack
  cases hpack

/-- Packing refuses nothing else, apart from what a narrow mantissa falls short of, as long as the two
widths can be added. -/
theorem packs_what_fits_iff (exponentBits mantissaBits : UInt64) (a : Amount) :
    PacksWhatFits exponentBits mantissaBits a ↔
      exponentBits.toNat + mantissaBits.toNat < 2 ^ (64 : Nat) ∧
      ¬Layout.FallsShort ⟨exponentBits.toNat, mantissaBits.toNat⟩ a := by
  constructor
  · intro hpacks
    refine ⟨?_, fun hshort => hshort.not_packsWhatFits hpacks⟩
    obtain ⟨l, hlayout, -⟩ := hpacks
    exact (Layout.ofWidths?_eq_some_iff.mp hlayout).1
  · rintro ⟨hsum, hreached⟩
    refine ⟨_, Layout.ofWidths?_eq_some_iff.mpr ⟨hsum, rfl⟩, ?_, ?_⟩
    · rintro ⟨supported, hle⟩
      cases hpack : pack ⟨exponentBits.toNat, mantissaBits.toNat⟩ a with
      | ok packed => exact ⟨packed, rfl⟩
      | error f =>
        rcases pack_eq_error_iff.mp hpack with ⟨hlayout, -⟩ | ⟨-, hlt, -⟩ | ⟨-, -, hlt, -⟩
        · exact absurd supported hlayout
        · omega
        · exact absurd (Layout.fallsShort_iff.mpr ⟨supported, hle, hlt⟩) hreached
    · intro hout
      cases hpack : pack ⟨exponentBits.toNat, mantissaBits.toNat⟩ a with
      | ok packed =>
        obtain ⟨supported, hle, -⟩ := pack_eq_ok_iff.mp hpack
        exact absurd ⟨supported, hle⟩ hout
      | error f => exact ⟨f, rfl⟩

/-- Twice the largest power of ten is within a layout with one bit of mantissa, and is refused. Two
widths of which each is half of the machine words do not make a layout. -/
theorem narrow_layout_falls_short :
    let l : Layout := ⟨7, 1⟩
    let a : Amount := ⟨2 * maxPower, by decide⟩
    let half : UInt64 := 0x8000000000000000
    l.Supported ∧ a.val ≤ l.greatest ∧ pack l a = .error (.scaleOverflow a.val) ∧
      ¬PacksWhatFits 7 1 a ∧ Layout.ofWidths? half half = none ∧ ¬PacksWhatFits half half 0 := by
  have hshort : Layout.FallsShort ⟨7, 1⟩ ⟨2 * maxPower, by decide⟩ := by decide
  have hsum : Layout.ofWidths? 0x8000000000000000 0x8000000000000000 = none := by decide
  have hnot : ¬PacksWhatFits 7 1 ⟨2 * maxPower, by decide⟩ := by
    apply Layout.FallsShort.not_packsWhatFits
    exact hshort
  refine ⟨hshort.1, hshort.le_greatest, hshort.pack_eq, hnot, hsum, ?_⟩
  rintro ⟨l, hlayout, -⟩
  rw [hsum] at hlayout
  cases hlayout

end KeyChange.DecimalFloat
