import KeyChange.Proofs.MachineWord
import KeyChange.Proofs.Packing

namespace KeyChange.DecimalFloat

open Machine

variable {exponentBits mantissaBits : BitVec 64} {l : Layout} {k n rounds : Nat}

def Layout.ofWords (exponentBits mantissaBits : BitVec 64) : Layout :=
  ⟨exponentBits.toNat, mantissaBits.toNat⟩

/-- Refuses a layout that is not supported. The two widths are added as machine words. -/
def checkLayout (exponentBits mantissaBits : BitVec 64) : Except Trap (Except Fault Unit) := do
  let bits ← add exponentBits mantissaBits
  if bits % 8 ≠ 0 ∨ 64 < bits ∨ 31 < exponentBits ∨ 64 < mantissaBits then
    return .error (.unsupported (.ofWords exponentBits mantissaBits))
  else return .ok ()

theorem checkLayout_eq (hsum : exponentBits.toNat + mantissaBits.toNat < 2 ^ (64 : Nat)) :
    checkLayout exponentBits mantissaBits =
      .ok (if (Layout.ofWords exponentBits mantissaBits).Supported then .ok ()
        else .error (.unsupported (.ofWords exponentBits mantissaBits))) := by
  obtain ⟨bits, hadd, hbits⟩ := exists_add hsum
  have hcond : (bits % 8 ≠ 0 ∨ 64 < bits ∨ 31 < exponentBits ∨ 64 < mantissaBits) ↔
      ¬(Layout.ofWords exponentBits mantissaBits).Supported := by
    simp only [ne_eq, BitVec.toNat_eq, BitVec.lt_def, BitVec.toNat_umod, Layout.ofWords,
      Layout.Supported, Layout.bits, ← hbits, BitVec.ofNat_eq_ofNat, BitVec.reduceToNat]
    omega
  rw [checkLayout, hadd, ok_bind]
  by_cases supported : (Layout.ofWords exponentBits mantissaBits).Supported
  · rw [if_pos supported]
    exact if_neg fun hrefused => hcond.mp hrefused supported
  · rw [if_neg supported]
    exact if_pos (hcond.mpr supported)

theorem Layout.Supported.width_le (supported : l.Supported) : l.width ≤ 8 :=
  Nat.div_le_div_right supported.2.1

theorem Layout.Supported.sum_lt (supported : (ofWords exponentBits mantissaBits).Supported) :
    exponentBits.toNat + mantissaBits.toNat < 2 ^ (64 : Nat) :=
  Nat.lt_of_le_of_lt supported.2.1 (by decide)

theorem checkLayout_eq_ok_iff :
    checkLayout exponentBits mantissaBits = .ok (.ok ()) ↔
      (Layout.ofWords exponentBits mantissaBits).Supported := by
  constructor
  · intro h
    obtain ⟨bits, hadd, -⟩ := bind_eq_ok_iff.mp h
    rw [checkLayout_eq (add_eq_ok_iff.mp hadd ▸ bits.isLt)] at h
    apply Decidable.byContradiction
    intro hlayout
    rw [if_neg hlayout] at h
    cases h
  · intro supported
    rw [checkLayout_eq supported.sum_lt, if_pos supported]

/-- The state of the search for the least exponent: the exponent and its power of ten. -/
structure Search where
  exponent : BitVec 64
  scale : BitVec 128

namespace Search

variable {maxMantissa amount : BitVec 128}

/-- Whether the amount is above what the largest mantissa makes of this exponent. A product that is no word
is above every amount. -/
def goesOn (maxMantissa amount : BitVec 128) (s : Search) : Bool :=
  (checkedMul maxMantissa s.scale).any (· < amount)

def next (amount : BitVec 128) (s : Search) : Except Trap (Except Fault Search) :=
  match checkedMul s.scale 10 with
  | none => .ok (.error (.scaleOverflow amount.toNat))
  | some scale => do return .ok ⟨← add s.exponent 1, scale⟩

def run (maxMantissa amount : BitVec 128) :
    (rounds : Nat) → Search → Except Trap (Except Fault Search)
  | 0, s => if s.goesOn maxMantissa amount then .error .rounds else .ok (.ok s)
  | rounds + 1, s =>
    if s.goesOn maxMantissa amount then do
      match ← s.next amount with
      | .error fault => return .error fault
      | .ok s => run maxMantissa amount rounds s
    else .ok (.ok s)

def after (n : Nat) : Search := ⟨.ofNat 64 n, .ofNat 128 (10 ^ n)⟩

theorem toNat_exponent_after (h : n < powerCount) : (after n).exponent.toNat = n := by
  rw [after, BitVec.toNat_ofNat, Nat.mod_eq_of_lt (Nat.lt_trans h (by decide))]

theorem toNat_scale_after (h : n < powerCount) : (after n).scale.toNat = 10 ^ n := by
  rw [after, BitVec.toNat_ofNat, Nat.mod_eq_of_lt (pow_lt_iff.mpr h)]

theorem goesOn_after_iff (h : n < powerCount) :
    (after n).goesOn maxMantissa amount = true ↔ maxMantissa.toNat * 10 ^ n < amount.toNat := by
  rw [goesOn, ← toNat_scale_after h]
  have hamount := amount.isLt
  cases hlimit : checkedMul maxMantissa (after n).scale with
  | some limit =>
    rw [checkedMul_eq_some_iff.mp hlimit, Option.any_some, decide_eq_true_eq, BitVec.lt_def]
  | none =>
    have hlarge := word?_eq_none_iff.mp hlimit
    simp only [Option.any_none, Bool.false_eq_true, false_iff]
    omega

theorem next_after (h : n + 1 < powerCount) :
    (after n).next amount = .ok (.ok (after (n + 1))) := by
  have hn : n < powerCount := Nat.lt_of_succ_lt h
  have hscale : checkedMul (after n).scale 10 = some (after (n + 1)).scale := by
    rw [checkedMul_eq_some_iff, toNat_scale_after hn, toNat_scale_after h, Nat.pow_succ]
    rfl
  have hexponent : add (after n).exponent 1 = .ok (after (n + 1)).exponent := by
    rw [add_eq_ok_iff, toNat_exponent_after hn, toNat_exponent_after h]
    rfl
  simp only [next, hscale, hexponent]
  rfl

theorem next_after_last :
    (after 38).next amount = .ok (.error (.scaleOverflow amount.toNat)) := by
  have hscale : checkedMul (after 38).scale 10 = none := by decide
  simp only [next, hscale]

/-- The search finds the least exponent, or has no power of ten left after 39 rounds. Every exponent passed
by was too small. -/
theorem run_after (hn : n < powerCount) (hrounds : powerCount ≤ rounds + n)
    (hbelow : ∀ i < n, maxMantissa.toNat * 10 ^ i < amount.toNat) :
    run maxMantissa amount rounds (after n) =
      .ok ((leastExponent? maxMantissa.toNat amount.toNat).elim
        (.error (.scaleOverflow amount.toNat)) fun k => .ok (after k)) := by
  -- An exponent is passed by in each round, and of those there are 39.
  induction rounds generalizing n with
  | zero => omega
  | succ rounds ih =>
    rw [run]
    by_cases hgo : maxMantissa.toNat * 10 ^ n < amount.toNat
    · rw [if_pos ((goesOn_after_iff hn).mpr hgo)]
      by_cases hlast : n + 1 < powerCount
      · rw [next_after hlast, ok_bind]
        apply ih hlast (by omega)
        intro i hi
        by_cases hin : i = n
        · rwa [hin]
        · exact hbelow i (by omega)
      · obtain rfl : n = 38 := by
          simp only [powerCount] at hn hlast
          omega
        rw [next_after_last, ok_bind, leastExponent?_eq_none_iff.mpr hgo]
        rfl
    · have hleast : leastExponent? maxMantissa.toNat amount.toNat = some n :=
        leastExponent?_eq_some_iff.mpr ⟨hn, Nat.le_of_not_lt hgo, hbelow⟩
      rw [if_neg (mt (goesOn_after_iff hn).mp hgo), hleast]
      rfl

end Search

structure Choice where
  mantissa : BitVec 128
  exponent : BitVec 64

namespace Choice

variable {maxMantissa amount : BitVec 128} {s : Search} {c : Choice}

def scaled (c : Choice) : Scaled := ⟨c.mantissa.toNat, c.exponent.toNat⟩

/-- The amount cut at a power of ten: the mantissa, and what is cut off. -/
def cut (amount : BitVec 128) (s : Search) : Except Trap (BitVec 128 × BitVec 128) := do
  let mantissa ← div amount s.scale
  return (mantissa, ← sub amount (← mul mantissa s.scale))

/-- How far the amount is above the largest mantissa one exponent below. -/
def excess (maxMantissa amount : BitVec 128) (s : Search) : Except Trap (BitVec 128) := do
  sub amount (← mul maxMantissa (← div s.scale 10))

/-- Rounds down at the exponent that was found, or takes the largest mantissa one exponent below where that
is at least as close. -/
def ofSearch (maxMantissa amount : BitVec 128) (s : Search) : Except Trap Choice :=
  if s.exponent = 0 then .ok ⟨amount, 0⟩
  else do
    let (mantissa, rest) ← cut amount s
    let excess ← excess maxMantissa amount s
    if rest < excess then return ⟨mantissa, s.exponent⟩
    else return ⟨maxMantissa, ← sub s.exponent 1⟩

theorem exists_cut (amount : BitVec 128) (hscale : s.scale.toNat = 10 ^ n) :
    ∃ mantissa rest, cut amount s = .ok (mantissa, rest) ∧
      mantissa.toNat = amount.toNat / 10 ^ n ∧
      rest.toNat = amount.toNat - amount.toNat / 10 ^ n * 10 ^ n := by
  have hpos : 0 < 10 ^ n := Nat.pow_pos (by omega)
  have hle : amount.toNat / 10 ^ n * 10 ^ n ≤ amount.toNat := Nat.div_mul_le_self _ _
  have hamount := amount.isLt
  obtain ⟨mantissa, hdiv, hmantissa⟩ := exists_div (x := amount) (y := s.scale) (by omega)
  rw [hscale] at hmantissa
  obtain ⟨product, hmul, hproduct⟩ := exists_mul (x := mantissa) (y := s.scale)
    (by rw [hmantissa, hscale]; omega)
  rw [hmantissa, hscale] at hproduct
  obtain ⟨rest, hsub, hrest⟩ := exists_sub (x := amount) (y := product) (by omega)
  refine ⟨mantissa, rest, ?_, hmantissa, by rw [hrest, hproduct]⟩
  simp only [cut, hdiv, hmul, hsub, ok_bind]
  rfl

theorem exists_excess (hscale : s.scale.toNat = 10 ^ (n + 1))
    (hpassed : maxMantissa.toNat * 10 ^ n < amount.toNat) :
    ∃ excess, Choice.excess maxMantissa amount s = .ok excess ∧
      excess.toNat = amount.toNat - maxMantissa.toNat * 10 ^ n := by
  have hamount := amount.isLt
  have htenth : 10 ^ (n + 1) / 10 = 10 ^ n := by
    rw [Nat.pow_succ, Nat.mul_div_cancel _ (by omega)]
  obtain ⟨tenth, hdiv, ht⟩ := exists_div (x := s.scale) (y := 10) (by decide)
  rw [hscale] at ht
  replace ht : tenth.toNat = 10 ^ n := ht.trans htenth
  obtain ⟨product, hmul, hproduct⟩ := exists_mul (x := maxMantissa) (y := tenth)
    (by rw [ht]; omega)
  rw [ht] at hproduct
  obtain ⟨excess, hsub, hexcess⟩ := exists_sub (x := amount) (y := product) (by omega)
  refine ⟨excess, ?_, by rw [hexcess, hproduct]⟩
  simp only [Choice.excess, hdiv, hmul, hsub, ok_bind]

theorem ofSearch_after (h : leastExponent? maxMantissa.toNat amount.toNat = some k) :
    ∃ c, ofSearch maxMantissa amount (.after k) = .ok c ∧
      c.scaled = round maxMantissa.toNat amount.toNat k := by
  obtain ⟨hk, -, hbelow⟩ := leastExponent?_eq_some_iff.mp h
  cases k with
  | zero => exact ⟨⟨amount, 0⟩, if_pos rfl, rfl⟩
  | succ k =>
    have hexponent := Search.toNat_exponent_after hk
    have hscale := Search.toNat_scale_after hk
    obtain ⟨mantissa, rest, hcut, hm, hr⟩ := exists_cut amount hscale
    obtain ⟨excess, hex, he⟩ := exists_excess hscale (hbelow k (Nat.lt_succ_self k))
    have hpositive : (1 : BitVec 64).toNat ≤ (Search.after (k + 1)).exponent.toNat := by
      rw [hexponent]
      exact Nat.succ_le_succ (Nat.zero_le k)
    obtain ⟨below, hpred, hb⟩ := exists_sub hpositive
    have hne : ¬(Search.after (k + 1)).exponent = 0 := by
      intro hzero
      rw [hzero] at hpositive
      exact absurd hpositive (by decide)
    simp only [ofSearch, if_neg hne, hcut, hex, hpred, ok_bind]
    by_cases hcloser : rest < excess
    · refine ⟨⟨mantissa, (Search.after (k + 1)).exponent⟩, if_pos hcloser, ?_⟩
      rw [BitVec.lt_def, hr, he] at hcloser
      simp only [round, if_pos hcloser, scaled, hm, hexponent]
    · refine ⟨⟨maxMantissa, below⟩, if_neg hcloser, ?_⟩
      rw [BitVec.lt_def, hr, he] at hcloser
      simp only [round, if_neg hcloser, scaled, hb, hexponent]
      rfl

def ofWithin (rounds : Nat) (maxMantissa amount : BitVec 128) : Except Trap (Except Fault Choice) := do
  match ← Search.run maxMantissa amount rounds ⟨0, 1⟩ with
  | .error fault => return .error fault
  | .ok s => return .ok (← ofSearch maxMantissa amount s)

theorem exists_ofWithin (maxMantissa amount : BitVec 128) (hrounds : powerCount ≤ rounds) :
    ∃ r, ofWithin rounds maxMantissa amount = .ok r ∧
      r.map scaled = (leastExponent? maxMantissa.toNat amount.toNat).elim
        (.error (.scaleOverflow amount.toNat)) fun k =>
          .ok (round maxMantissa.toNat amount.toNat k) := by
  have hstart : (⟨0, 1⟩ : Search) = .after 0 := rfl
  have hsearch := Search.run_after (n := 0) (by decide) hrounds
    (show ∀ i < 0, maxMantissa.toNat * 10 ^ i < amount.toNat by omega)
  rw [ofWithin, hstart, hsearch, ok_bind]
  cases hleast : leastExponent? maxMantissa.toNat amount.toNat with
  | none => exact ⟨_, rfl, rfl⟩
  | some k =>
    obtain ⟨c, hc, hscaled⟩ := ofSearch_after hleast
    refine ⟨.ok c, ?_, congrArg Except.ok hscaled⟩
    simp only [Option.elim_some, hc, ok_bind]
    rfl

def ofAmount (rounds : Nat) (exponentBits mantissaBits : BitVec 64) (amount : BitVec 128) :
    Except Trap (Except Fault Choice) := do
  match ← checkLayout exponentBits mantissaBits with
  | .error fault => return .error fault
  | .ok () =>
    let bits ← add exponentBits mantissaBits
    let maxPower ← ones 32 exponentBits
    let maxMantissa ← ones 128 mantissaBits
    if saturatingMul maxMantissa (saturatingPow 10 maxPower.toNat) < amount then
      return .error (.outOfRange amount.toNat bits.toNat)
    else ofWithin rounds maxMantissa amount

/-- The word of 64 bits that holds both parts. The mantissa is cut to this width before it is shifted. -/
def word (exponentBits : BitVec 64) (c : Choice) : Except Trap (BitVec 64) := do
  return (← shiftLeft (c.mantissa.setWidth 64) exponentBits) ||| c.exponent

end Choice

theorem checkedPow_ten_eq_some_iff {z : BitVec 128} : checkedPow 10 n = some z ↔ 10 ^ n = z.toNat :=
  checkedPow_eq_some_iff (by decide)

theorem map_toNat_checkedPow_ten (n : Nat) :
    (checkedPow (10 : BitVec 128) n).map BitVec.toNat = power? n := by
  apply Option.ext
  intro p
  simp only [Option.map_eq_some_iff, power?_eq_some_iff, checkedPow_ten_eq_some_iff, ← pow_lt_iff]
  constructor
  · rintro ⟨z, hz, rfl⟩
    exact ⟨hz ▸ z.isLt, hz⟩
  · rintro ⟨hlt, rfl⟩
    obtain ⟨z, hz⟩ := exists_word hlt
    exact ⟨z, hz, hz.symm⟩

theorem toNat_saturatingPow_ten (n : Nat) :
    (saturatingPow (10 : BitVec 128) n).toNat = (power? n).getD maxAmount := by
  rw [saturatingPow, ← map_toNat_checkedPow_ten]
  cases checkedPow (10 : BitVec 128) n <;> rfl

theorem Layout.toNat_range {maxMantissa : BitVec 128} {maxPower : BitVec 32}
    (hm : maxMantissa.toNat = l.maxMantissa) (hp : maxPower.toNat = l.maxExponent) :
    (saturatingMul maxMantissa (saturatingPow 10 maxPower.toNat)).toNat = l.limit := by
  rw [toNat_saturatingMul, toNat_saturatingPow_ten, hm, hp]
  rfl

theorem Choice.exists_ofAmount_of_supported
    (supported : (Layout.ofWords exponentBits mantissaBits).Supported)
    (hrounds : powerCount ≤ rounds) (amount : BitVec 128) :
    ∃ r, ofAmount rounds exponentBits mantissaBits amount = .ok r ∧
      r.map scaled = (pack (.ofWords exponentBits mantissaBits) amount.toFin).map fun packed =>
        (Layout.ofWords exponentBits mantissaBits).scaled packed.toNat := by
  obtain ⟨-, -, hexponent, hmantissa⟩ := id supported
  simp only [Layout.ofWords] at hexponent hmantissa
  have hchecked := checkLayout_eq_ok_iff.mpr supported
  obtain ⟨bits, hadd, hb⟩ := exists_add supported.sum_lt
  obtain ⟨maxPower, hpower, hp⟩ := exists_ones (show exponentBits.toNat < 32 by omega)
  obtain ⟨maxMantissa, hones, hm⟩ := exists_ones (show mantissaBits.toNat < 128 by omega)
  generalize hl : Layout.ofWords exponentBits mantissaBits = l at supported ⊢
  replace hb : bits.toNat = l.bits := by rw [hb, ← hl]; rfl
  replace hp : maxPower.toNat = l.maxExponent := by rw [hp, ← hl]; rfl
  replace hm : maxMantissa.toNat = l.maxMantissa := by rw [hm, ← hl]; rfl
  simp only [ofAmount, hchecked, hadd, hpower, hones, ok_bind, BitVec.lt_def,
    Layout.toNat_range hm hp]
  simp only [pack, if_neg (not_not_intro supported), BitVec.val_toFin]
  by_cases hover : l.limit < amount.toNat
  · refine ⟨_, if_pos hover, ?_⟩
    rw [if_pos hover, hb]
    rfl
  · rw [if_neg hover, if_neg hover, ← hm]
    obtain ⟨r, hr, hscaled⟩ := exists_ofWithin maxMantissa amount hrounds
    refine ⟨r, hr, hscaled.trans ?_⟩
    cases hleast : leastExponent? maxMantissa.toNat amount.toNat with
    | none => rfl
    | some k =>
      rw [hm] at hleast ⊢
      have fits := round_fits (Nat.le_of_not_lt (mt Layout.limit_lt_iff.mpr hover)) hleast
      exact congrArg Except.ok (supported.scaled_ofNat fits).symm

theorem Choice.exists_ofAmount (hsum : exponentBits.toNat + mantissaBits.toNat < 2 ^ (64 : Nat))
    (hrounds : powerCount ≤ rounds) (amount : BitVec 128) :
    ∃ r, ofAmount rounds exponentBits mantissaBits amount = .ok r ∧
      r.map scaled = (pack (.ofWords exponentBits mantissaBits) amount.toFin).map fun packed =>
        (Layout.ofWords exponentBits mantissaBits).scaled packed.toNat := by
  by_cases supported : (Layout.ofWords exponentBits mantissaBits).Supported
  · exact exists_ofAmount_of_supported supported hrounds amount
  · refine ⟨.error (.unsupported (.ofWords exponentBits mantissaBits)), ?_, ?_⟩
    · rw [ofAmount, checkLayout_eq hsum, if_neg supported]
      rfl
    · rw [pack, if_pos supported]
      rfl

/-- Both parts have room in the layout. No bit is cut off the mantissa where it becomes a word of 64 bits,
and it shares no bit with the exponent there. -/
structure Choice.HasRoom (exponentBits mantissaBits : BitVec 64) (c : Choice) : Prop where
  exponent_lt : c.exponent.toNat < 2 ^ exponentBits.toNat
  mantissa_lt : c.mantissa.toNat < 2 ^ mantissaBits.toNat
  toNat_setWidth : (c.mantissa.setWidth 64).toNat = c.mantissa.toNat
  exists_word : ∃ word, c.word exponentBits = .ok word ∧
    word.toNat = c.mantissa.toNat * 2 ^ exponentBits.toNat + c.exponent.toNat ∧
    word.toNat < 2 ^ (exponentBits.toNat + mantissaBits.toNat)

theorem Choice.hasRoom {c : Choice} (supported : (Layout.ofWords exponentBits mantissaBits).Supported)
    (fits : c.scaled.Fits (.ofWords exponentBits mantissaBits)) :
    c.HasRoom exponentBits mantissaBits := by
  obtain ⟨-, hbits, hexponent, hmantissa⟩ := supported
  have hword : c.mantissa.toNat * 2 ^ exponentBits.toNat + c.exponent.toNat <
      2 ^ (exponentBits.toNat + mantissaBits.toNat) := Layout.word_lt fits
  have hm : c.mantissa.toNat < 2 ^ mantissaBits.toNat :=
    Nat.lt_of_le_pred (Nat.two_pow_pos _) fits.mantissa_le
  have he : c.exponent.toNat < 2 ^ exponentBits.toNat :=
    Nat.lt_of_le_pred (Nat.two_pow_pos _) fits.exponent_le
  have hcast : (c.mantissa.setWidth 64).toNat = c.mantissa.toNat := by
    rw [BitVec.toNat_setWidth, Nat.mod_eq_of_lt]
    exact Nat.lt_of_lt_of_le hm (Nat.pow_le_pow_right (by omega) hmantissa)
  have hshift : shiftLeft (c.mantissa.setWidth 64) exponentBits =
      .ok (c.mantissa.setWidth 64 <<< exponentBits.toNat) :=
    shiftLeft_eq_ok (Nat.lt_of_le_of_lt hexponent (by decide))
  have hvalue : (c.mantissa.setWidth 64 <<< exponentBits.toNat ||| c.exponent).toNat =
      c.mantissa.toNat * 2 ^ exponentBits.toNat + c.exponent.toNat := by
    have hroom : 2 ^ (exponentBits.toNat + mantissaBits.toNat) ≤ 2 ^ (64 : Nat) :=
      Nat.pow_le_pow_right (by omega) hbits
    rw [toNat_shiftLeft_or (by rw [hcast]; omega) he, hcast]
  refine ⟨he, hm, hcast, _, ?_, hvalue, hvalue ▸ hword⟩
  rw [Choice.word, hshift, ok_bind]
  rfl

theorem drop_bigEndian {width total : Nat} (h : width ≤ total) (n : Nat) :
    (bigEndian total n).drop (total - width) = bigEndian width n := by
  have htake : (littleEndian total n).take width = littleEndian width n := by
    induction width generalizing total n with
    | zero => rfl
    | succ width ih =>
      cases total with
      | zero => omega
      | succ total => rw [littleEndian, littleEndian, List.take_succ_cons, ih (by omega)]
  rw [bigEndian, List.drop_reverse, length_littleEndian, Nat.sub_sub_self h, htake, bigEndian]

def unusedBytes (exponentBits mantissaBits : BitVec 64) : Except Trap (BitVec 64) := do
  sub 8 (← div (← add exponentBits mantissaBits) 8)

/-- Packs an amount, with so many rounds at most for the search. -/
def machinePack (rounds : Nat) (exponentBits mantissaBits : BitVec 64) (amount : BitVec 128) :
    Except Trap (Except Fault (List UInt8)) := do
  match ← Choice.ofAmount rounds exponentBits mantissaBits amount with
  | .error fault => return .error fault
  | .ok c =>
    let word ← c.word exponentBits
    return .ok (← sliceFrom (← unusedBytes exponentBits mantissaBits) (bigEndian 8 word.toNat))

theorem exists_unusedBytes (supported : (Layout.ofWords exponentBits mantissaBits).Supported) :
    ∃ start, unusedBytes exponentBits mantissaBits = .ok start ∧
      start.toNat = 8 - (Layout.ofWords exponentBits mantissaBits).width := by
  obtain ⟨bits, hadd, hb⟩ := exists_add supported.sum_lt
  obtain ⟨width, hdiv, hw⟩ := exists_div (x := bits) (y := 8) (by decide)
  replace hw : width.toNat = (Layout.ofWords exponentBits mantissaBits).width := by
    rw [hw, hb]
    rfl
  obtain ⟨start, hsub, hs⟩ :=
    exists_sub (show width.toNat ≤ (8 : BitVec 64).toNat from hw ▸ supported.width_le)
  refine ⟨start, by simp only [unusedBytes, hadd, hdiv, hsub, ok_bind], ?_⟩
  rw [hs, hw]
  rfl

/-- Packing on machine words is packing, as long as the two widths can be added. -/
theorem machinePack_eq (hsum : exponentBits.toNat + mantissaBits.toNat < 2 ^ (64 : Nat))
    (hrounds : powerCount ≤ rounds) (amount : BitVec 128) :
    machinePack rounds exponentBits mantissaBits amount =
      .ok ((pack (.ofWords exponentBits mantissaBits) amount.toFin).map Bytes.toList) := by
  obtain ⟨r, hr, hscaled⟩ := Choice.exists_ofAmount hsum hrounds amount
  rw [machinePack, hr, ok_bind]
  obtain ⟨f, rfl, hf⟩ | ⟨c, packed, rfl, hpacked, hc⟩ := map_eq_map_iff.mp hscaled
  · rw [hf]
    rfl
  · have supported := (pack_eq_ok_iff.mp hpacked).1
    obtain ⟨word, hword, hvalue, -⟩ :=
      (Choice.hasRoom supported (hc ▸ supported.fits_bytes packed)).exists_word
    replace hvalue : word.toNat = packed.toNat :=
      hvalue.trans ((congrArg (Layout.word _) hc).trans (Layout.word_scaled _))
    obtain ⟨start, hunused, hstart⟩ := exists_unusedBytes supported
    have hslice := sliceFrom_eq_ok
      (show start.toNat ≤ (bigEndian 8 word.toNat).length by rw [length_bigEndian]; omega)
    rw [hstart, drop_bigEndian supported.width_le, hvalue] at hslice
    simp only [hword, hunused, hvalue, hslice, ok_bind, hpacked]
    exact congrArg (fun b : Bytes _ => Except.ok (Except.ok b.toList)) (Bytes.ofNat_toNat packed)

theorem Choice.hasRoom_of_ofAmount {amount : BitVec 128} {c : Choice}
    (hsum : exponentBits.toNat + mantissaBits.toNat < 2 ^ (64 : Nat)) (hrounds : powerCount ≤ rounds)
    (h : ofAmount rounds exponentBits mantissaBits amount = .ok (.ok c)) :
    c.HasRoom exponentBits mantissaBits := by
  obtain ⟨r, hr, hscaled⟩ := exists_ofAmount hsum hrounds amount
  obtain rfl := Except.ok.inj (h.symm.trans hr)
  obtain ⟨packed, hpacked, hc⟩ := map_eq_ok_iff.mp hscaled.symm
  have supported := (pack_eq_ok_iff.mp hpacked).1
  exact hasRoom supported (hc ▸ supported.fits_bytes packed)

end KeyChange.DecimalFloat
