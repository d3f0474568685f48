import KeyChange.DecimalFloat

namespace KeyChange.DecimalFloat

variable {l : Layout} {s t : Scaled} {m a e k : Nat}

structure Scaled.Fits (l : Layout) (s : Scaled) : Prop where
  mantissa_le : s.mantissa ≤ l.maxMantissa
  exponent_le : s.exponent ≤ l.maxExponent

/-- No lesser exponent would do, since ten times the mantissa has no room. -/
def Scaled.IsReduced (l : Layout) (s : Scaled) : Prop :=
  s.exponent = 0 ∨ l.maxMantissa < 10 * s.mantissa

instance (l : Layout) (s : Scaled) : Decidable (s.IsReduced l) := by
  unfold Scaled.IsReduced
  infer_instance

theorem Scaled.IsReduced.exponent_le (reduced : s.IsReduced l) (fits : t.Fits l)
    (h : s.value = t.value) : s.exponent ≤ t.exponent := by
  apply Nat.le_of_not_lt
  intro hlt
  obtain hzero | hroom := reduced
  · omega
  · obtain ⟨k, hk⟩ : ∃ k, s.exponent = t.exponent + 1 + k := ⟨s.exponent - t.exponent - 1, by omega⟩
    have hmantissa : t.mantissa = s.mantissa * (10 * 10 ^ k) := by
      have hvalue : t.mantissa * 10 ^ t.exponent = s.mantissa * (10 * 10 ^ k) * 10 ^ t.exponent := by
        rw [Scaled.value, Scaled.value, hk] at h
        rw [← h, Nat.pow_add, Nat.pow_add]
        simp only [Nat.pow_one, Nat.mul_assoc, Nat.mul_left_comm, Nat.mul_comm]
      exact Nat.eq_of_mul_eq_mul_right (Nat.pow_pos (by omega)) hvalue
    have hk : 1 ≤ 10 ^ k := Nat.pow_pos (by omega)
    have hle : s.mantissa * 10 ≤ t.mantissa := by
      rw [hmantissa]
      exact Nat.mul_le_mul_left _ (by omega)
    have := fits.mantissa_le
    omega

theorem Scaled.eq_of_exponent_eq (h : s.value = t.value) (he : s.exponent = t.exponent) :
    s = t := by
  have hmantissa : s.mantissa = t.mantissa := by
    rw [Scaled.value, Scaled.value, he] at h
    exact Nat.eq_of_mul_eq_mul_right (Nat.pow_pos (by omega)) h
  cases s
  cases t
  simp_all

theorem Scaled.IsReduced.unique (hs : s.IsReduced l) (ht : t.IsReduced l) (fs : s.Fits l)
    (ft : t.Fits l) (h : s.value = t.value) : s = t :=
  Scaled.eq_of_exponent_eq h (Nat.le_antisymm (hs.exponent_le ft h) (ht.exponent_le fs h.symm))

theorem Layout.scaled_word (fits : s.Fits l) : l.scaled (l.word s) = s := by
  have hpos : 0 < 2 ^ l.exponentBits := Nat.pow_pos (by omega)
  have hlt : s.exponent < 2 ^ l.exponentBits := by
    have := fits.exponent_le
    simp only [maxExponent] at this
    omega
  rw [scaled, word, Nat.mul_comm, Nat.mul_add_div hpos, Nat.div_eq_of_lt hlt, Nat.mul_add_mod,
    Nat.mod_eq_of_lt hlt]
  rfl

theorem Layout.word_scaled (n : Nat) : l.word (l.scaled n) = n := by
  rw [word, scaled]
  exact Nat.div_add_mod' n _

theorem Layout.scaled_injective {data data' : Bytes l.width}
    (h : l.scaled data.toNat = l.scaled data'.toNat) : data = data' := by
  apply Bytes.toNat_injective
  rw [← word_scaled (l := l) data.toNat, h, word_scaled]

theorem Layout.word_lt (fits : s.Fits l) : l.word s < 2 ^ l.bits := by
  have hmantissa := fits.mantissa_le
  have hexponent := fits.exponent_le
  simp only [maxMantissa, maxExponent] at hmantissa hexponent
  have hm : 0 < 2 ^ l.mantissaBits := Nat.pow_pos (by omega)
  have he : 0 < 2 ^ l.exponentBits := Nat.pow_pos (by omega)
  have hstep : (s.mantissa + 1) * 2 ^ l.exponentBits ≤ 2 ^ l.mantissaBits * 2 ^ l.exponentBits :=
    Nat.mul_le_mul_right _ (by omega)
  rw [word, bits, Nat.add_comm l.exponentBits, Nat.pow_add]
  rw [Nat.add_mul] at hstep
  omega

theorem Layout.fits_scaled {n : Nat} (h : n < 2 ^ l.bits) : (l.scaled n).Fits l := by
  have he : 0 < 2 ^ l.exponentBits := Nat.pow_pos (by omega)
  constructor
  · have : n / 2 ^ l.exponentBits < 2 ^ l.mantissaBits := by
      rw [Nat.div_lt_iff_lt_mul he, ← Nat.pow_add, Nat.add_comm]
      exact h
    simp only [scaled, maxMantissa]
    omega
  · have := Nat.mod_lt n he
    simp only [scaled, maxExponent]
    omega

theorem Layout.Supported.pow_width (h : l.Supported) : 256 ^ l.width = 2 ^ l.bits := by
  have hbits : l.bits = 8 * l.width := by
    have := h.1
    simp only [width]
    omega
  rw [hbits, Nat.pow_mul]

theorem power?_eq_some_iff {n p : Nat} : power? n = some p ↔ n < powerCount ∧ 10 ^ n = p := by
  unfold power?
  split <;> simp [*]

theorem Scaled.amount?_eq_some_iff {a : Amount} :
    s.amount? = some a ↔ s.exponent < powerCount ∧ s.value = a.val := by
  unfold amount?
  split
  next h =>
    have : ¬s.exponent < powerCount := fun hlt => by
      simp [power?, hlt] at h
    simp [this]
  next p h =>
    obtain ⟨hlt, rfl⟩ := power?_eq_some_iff.mp h
    have hvalue : s.mantissa * 10 ^ s.exponent = s.value := rfl
    rw [hvalue]
    split
    next => simp [hlt, Fin.ext_iff]
    next hlarge =>
      have : s.value ≠ a.val := by
        have := a.isLt
        omega
      simp [this]

theorem leastExponent?_eq_some_iff :
    leastExponent? m a = some e ↔
      e < powerCount ∧ a ≤ m * 10 ^ e ∧ ∀ i < e, m * 10 ^ i < a := by
  simp only [leastExponent?, List.find?_range_eq_some, decide_eq_true_eq, List.mem_range,
    Bool.not_eq_true', decide_eq_false_iff_not, Nat.not_le]
  exact ⟨fun ⟨ha, he, hi⟩ => ⟨he, ha, hi⟩, fun ⟨he, ha, hi⟩ => ⟨ha, he, hi⟩⟩

theorem Scaled.Fits.exists_leastExponent (fits : s.Fits l) (h : s.exponent < powerCount) :
    ∃ e ≤ s.exponent, leastExponent? l.maxMantissa s.value = some e := by
  have hle : s.value ≤ l.maxMantissa * 10 ^ s.exponent := Nat.mul_le_mul_right _ fits.mantissa_le
  have hsome : (leastExponent? l.maxMantissa s.value).isSome := by
    rw [leastExponent?, List.find?_isSome]
    exact ⟨s.exponent, List.mem_range.mpr h, decide_eq_true hle⟩
  obtain ⟨e, he⟩ := Option.isSome_iff_exists.mp hsome
  refine ⟨e, Nat.le_of_not_lt fun hlt => ?_, he⟩
  have := (leastExponent?_eq_some_iff.mp he).2.2 s.exponent hlt
  omega

theorem Scaled.value_le (hm : s.mantissa ≤ m) (he : s.exponent ≤ k) : s.value ≤ m * 10 ^ k :=
  Nat.mul_le_mul hm (Nat.pow_le_pow_right (by omega) he)

theorem Scaled.value_le_cut (he : k ≤ s.exponent) (h : s.value ≤ a) :
    s.value ≤ a / 10 ^ k * 10 ^ k := by
  have hdvd : 10 ^ k ∣ s.value := Nat.dvd_trans (Nat.pow_dvd_pow 10 he) (Nat.dvd_mul_left _ _)
  calc s.value = s.value / 10 ^ k * 10 ^ k := (Nat.div_mul_cancel hdvd).symm
    _ ≤ a / 10 ^ k * 10 ^ k := Nat.mul_le_mul_right _ (Nat.div_le_div_right h)

/-- How an amount is rounded at the least exponent: it is kept, or cut to a multiple of the power of
ten, or replaced by the largest mantissa one exponent below. -/
inductive Rounded (m a : Nat) : Nat → Scaled → Prop
  | kept (h : a ≤ m) : Rounded m a 0 ⟨a, 0⟩
  | cut {k : Nat} (hle : a ≤ m * 10 ^ (k + 1)) (h : m * 10 ^ k < a / 10 ^ (k + 1) * 10 ^ (k + 1)) :
    Rounded m a (k + 1) ⟨a / 10 ^ (k + 1), k + 1⟩
  | saturated {k : Nat} (hle : a ≤ m * 10 ^ (k + 1)) (hlt : m * 10 ^ k < a)
    (h : a / 10 ^ (k + 1) * 10 ^ (k + 1) ≤ m * 10 ^ k) : Rounded m a (k + 1) ⟨m, k⟩

theorem rounded_of_leastExponent (h : leastExponent? m a = some e) :
    Rounded m a e (round m a e) := by
  obtain ⟨-, hle, hbelow⟩ := leastExponent?_eq_some_iff.mp h
  cases e with
  | zero => exact .kept (by simpa using hle)
  | succ k =>
    have hlt : m * 10 ^ k < a := hbelow k (Nat.lt_succ_self k)
    have hcut : a / 10 ^ (k + 1) * 10 ^ (k + 1) ≤ a := Nat.div_mul_le_self _ _
    unfold round
    dsimp only
    split
    next hcloser => exact .cut hle (by omega)
    next hcloser => exact .saturated hle hlt (by omega)

namespace Rounded

variable {r : Scaled}

theorem mantissa_le (h : Rounded m a e r) : r.mantissa ≤ m := by
  cases h with
  | kept h => exact h
  | cut hle h => exact Nat.div_le_of_le_mul (by rwa [Nat.mul_comm])
  | saturated hle hlt h => exact Nat.le_refl m

theorem exponent_le (h : Rounded m a e r) : r.exponent ≤ e := by
  cases h with
  | kept h => exact Nat.le_refl 0
  | cut hle h => exact Nat.le_refl _
  | saturated hle hlt h => exact Nat.le_succ _

theorem value_le (h : Rounded m a e r) : r.value ≤ a := by
  cases h with
  | kept h => simp [Scaled.value]
  | cut hle h => exact Nat.div_mul_le_self _ _
  | saturated hle hlt h => exact Nat.le_of_lt hlt

/-- One of the two candidates is the greatest value below the amount: lesser exponents do not lead
above the largest mantissa one exponent below, and greater ones not above the cut amount. -/
theorem greatest (h : Rounded m a e r) (hm : s.mantissa ≤ m) (hs : s.value ≤ a) :
    s.value ≤ r.value := by
  cases h with
  | kept h => simpa [Scaled.value] using hs
  | @cut k hle h =>
    by_cases hk : s.exponent ≤ k
    · exact Nat.le_trans (Scaled.value_le hm hk) (Nat.le_of_lt h)
    · exact Scaled.value_le_cut (Nat.lt_of_not_le hk) hs
  | @saturated k hle hlt h =>
    by_cases hk : s.exponent ≤ k
    · exact Scaled.value_le hm hk
    · exact Nat.le_trans (Scaled.value_le_cut (Nat.lt_of_not_le hk) hs) h

theorem isReduced (h : Rounded l.maxMantissa a e r) : r.IsReduced l := by
  cases h with
  | kept h => exact Or.inl rfl
  | @cut k hle h =>
    have hmul (q : Nat) : q * 10 ^ (k + 1) = 10 * q * 10 ^ k := by
      rw [Nat.pow_succ, Nat.mul_comm _ 10, ← Nat.mul_assoc, Nat.mul_comm q]
    rw [hmul] at h
    exact Or.inr (Nat.lt_of_mul_lt_mul_right h)
  | @saturated k hle hlt h =>
    have hpos : 0 < l.maxMantissa * 10 ^ (k + 1) := by omega
    have := Nat.pos_of_mul_pos_right hpos
    exact Or.inr (show l.maxMantissa < 10 * l.maxMantissa by omega)

end Rounded

theorem Layout.Supported.scaled_ofNat (supported : l.Supported) (fits : s.Fits l) :
    l.scaled (Bytes.ofNat l.width (l.word s)).toNat = s := by
  rw [Bytes.toNat_ofNat, supported.pow_width, Nat.mod_eq_of_lt (Layout.word_lt fits)]
  exact Layout.scaled_word fits

theorem Layout.Supported.fits_bytes (supported : l.Supported) (data : Bytes l.width) :
    (l.scaled data.toNat).Fits l := by
  apply Layout.fits_scaled
  rw [← supported.pow_width]
  exact data.toNat_lt

end KeyChange.DecimalFloat
