import KeyChange.Proofs.MachinePacking
import KeyChange.Proofs.MessageElements
import KeyChange.Proofs.Unpacking

namespace KeyChange.DecimalFloat

open Machine

variable {exponentBits mantissaBits word : BitVec 64} {data : List UInt8}

def pushByte (word : BitVec 64) (b : UInt8) : Except Trap (BitVec 64) := do
  return (← shiftLeft word 8) ||| b.toBitVec.setWidth 64

def parts (exponentBits word : BitVec 64) : Except Trap (BitVec 128 × BitVec 32) := do
  let mask ← ones 64 exponentBits
  let mantissa ← shiftRight word exponentBits
  return (mantissa.setWidth 128, (word &&& mask).setWidth 32)

def checkedValue (mantissa : BitVec 128) (exponent : BitVec 32) : Option (BitVec 128) :=
  (checkedPow 10 exponent.toNat).bind (checkedMul mantissa)

def machineUnpack (exponentBits mantissaBits : BitVec 64) (data : List UInt8) :
    Except Trap (Option (BitVec 128)) := do
  match ← checkLayout exponentBits mantissaBits with
  | .error _ => return none
  | .ok () =>
    let bits ← add exponentBits mantissaBits
    if bits ≠ (← mul (.ofNat 64 data.length) 8) then return none
    else
      let (mantissa, exponent) ← parts exponentBits (← data.foldlM pushByte 0)
      return checkedValue mantissa exponent

theorem exists_pushByte {b : UInt8} (h : word.toNat * 256 + b.toNat < 2 ^ (64 : Nat)) :
    ∃ next, pushByte word b = .ok next ∧ next.toNat = word.toNat * 256 + b.toNat := by
  have hb : (b.toBitVec.setWidth 64).toNat = b.toNat := BitVec.toNat_setWidth_of_le (by decide)
  have hshift : shiftLeft word 8 = .ok (word <<< 8) := shiftLeft_eq_ok (by decide)
  have hword : word.toNat * 2 ^ (8 : Nat) < 2 ^ (64 : Nat) :=
    Nat.lt_of_le_of_lt (Nat.le_add_right _ b.toNat) h
  refine ⟨word <<< 8 ||| b.toBitVec.setWidth 64, ?_, ?_⟩
  · rw [pushByte, hshift, ok_bind]
    rfl
  · rw [toNat_shiftLeft_or hword (hb ▸ b.toNat_lt), hb]

/-- As long as no bit leaves the word, the bytes are put behind it as their number. -/
theorem exists_foldlM_pushByte
    (h : word.toNat * 256 ^ data.length + ofBigEndian data < 2 ^ (64 : Nat)) :
    ∃ result, data.foldlM pushByte word = .ok result ∧
      result.toNat = word.toNat * 256 ^ data.length + ofBigEndian data := by
  -- The word so far and the bytes still to be read stay below the same bound.
  induction data generalizing word with
  | nil => exact ⟨word, rfl, by simp [ofBigEndian, ofLittleEndian]⟩
  | cons b bs ih =>
    have hsplit : word.toNat * 256 ^ (b :: bs).length + ofBigEndian (b :: bs) =
        (word.toNat * 256 + b.toNat) * 256 ^ bs.length + ofBigEndian bs := by
      rw [ofBigEndian_cons, List.length_cons, Nat.pow_succ, Nat.add_mul, Nat.mul_assoc,
        Nat.mul_comm 256, Nat.mul_comm b.toNat, Nat.add_comm (ofBigEndian bs), Nat.add_assoc]
    rw [hsplit] at h ⊢
    have hpos : 0 < 256 ^ bs.length := Nat.pow_pos (by omega)
    have hhead : word.toNat * 256 + b.toNat ≤ (word.toNat * 256 + b.toNat) * 256 ^ bs.length :=
      Nat.le_mul_of_pos_right _ hpos
    obtain ⟨next, hpush, hnext⟩ := exists_pushByte (show word.toNat * 256 + b.toNat < _ by omega)
    obtain ⟨result, hfold, hresult⟩ := ih (hnext ▸ h)
    exact ⟨result, by rw [List.foldlM_cons, hpush, ok_bind, hfold], hnext ▸ hresult⟩

theorem exists_wordOfBytes {l : Layout} (supported : l.Supported) (h : data.length * 8 = l.bits) :
    ∃ word, data.foldlM pushByte 0 = .ok word ∧ word.toNat = ofBigEndian data := by
  have spells := Layout.spells_of_length_eq h
  have hlt : ofBigEndian data < 2 ^ (64 : Nat) := by
    rw [spells.number_eq]
    exact Nat.lt_of_lt_of_le (Layout.word_lt spells.fits)
      (Nat.pow_le_pow_right (by omega) supported.2.1)
  have hzero : (0 : BitVec 64).toNat * 256 ^ data.length + ofBigEndian data = ofBigEndian data := by
    rw [show (0 : BitVec 64).toNat = 0 from rfl, Nat.zero_mul, Nat.zero_add]
  obtain ⟨word, hfold, hword⟩ := exists_foldlM_pushByte (hzero ▸ hlt)
  exact ⟨word, hfold, hword.trans hzero⟩

theorem exists_parts (h : exponentBits.toNat ≤ 31) (word : BitVec 64) :
    ∃ mantissa exponent, parts exponentBits word = .ok (mantissa, exponent) ∧
      mantissa.toNat = word.toNat / 2 ^ exponentBits.toNat ∧
      exponent.toNat = word.toNat % 2 ^ exponentBits.toNat := by
  obtain ⟨mask, hones, hmask⟩ := exists_ones (show exponentBits.toNat < 64 by omega)
  have hshift : shiftRight word exponentBits = .ok (word >>> exponentBits.toNat) :=
    shiftRight_eq_ok (by omega)
  have hexponent : (word &&& mask).toNat = word.toNat % 2 ^ exponentBits.toNat := by
    rw [BitVec.toNat_and, hmask, Nat.and_two_pow_sub_one_eq_mod]
  have hlt : word.toNat % 2 ^ exponentBits.toNat < 2 ^ (32 : Nat) :=
    Nat.lt_of_lt_of_le (Nat.mod_lt _ (Nat.two_pow_pos _)) (Nat.pow_le_pow_right (by omega) (by omega))
  refine ⟨(word >>> exponentBits.toNat).setWidth 128, (word &&& mask).setWidth 32, ?_, ?_, ?_⟩
  · simp only [parts, hones, hshift, ok_bind]
    rfl
  · rw [BitVec.toNat_setWidth_of_le (by decide), BitVec.toNat_ushiftRight,
      Nat.shiftRight_eq_div_pow]
  · rw [BitVec.toNat_setWidth, hexponent, Nat.mod_eq_of_lt hlt]

theorem checkedValue_eq {s : Scaled} {mantissa : BitVec 128} {exponent : BitVec 32}
    (hm : mantissa.toNat = s.mantissa) (he : exponent.toNat = s.exponent) :
    checkedValue mantissa exponent = s.amount?.map BitVec.ofFin := by
  apply Option.ext
  intro z
  simp only [checkedValue, Option.bind_eq_some_iff, Option.map_eq_some_iff, checkedPow_ten_eq_some_iff,
    checkedMul_eq_some_iff, Scaled.amount?_eq_some_iff, ← pow_lt_iff, hm, he]
  constructor
  · rintro ⟨p, hp, hz⟩
    exact ⟨z.toFin, ⟨hp ▸ p.isLt, by rw [Scaled.value, hp, hz]; rfl⟩, rfl⟩
  · rintro ⟨a, ⟨hlt, ha⟩, rfl⟩
    obtain ⟨p, hp⟩ := exists_word hlt
    exact ⟨p, hp, by rw [← hp]; exact ha⟩

/-- Unpacking on machine words is unpacking, as long as the two widths can be added and the bytes have a
number of bits. -/
theorem machineUnpack_eq (hsum : exponentBits.toNat + mantissaBits.toNat < 2 ^ (64 : Nat))
    (hlen : data.length * 8 < 2 ^ (64 : Nat)) :
    machineUnpack exponentBits mantissaBits data =
      .ok ((unpack (.ofWords exponentBits mantissaBits) data).map BitVec.ofFin) := by
  have hchecked := checkLayout_eq hsum
  by_cases supported : (Layout.ofWords exponentBits mantissaBits).Supported
  · obtain ⟨length, hlength⟩ := exists_word (show data.length < 2 ^ (64 : Nat) by omega)
    obtain ⟨bits, hadd, hbits⟩ := exists_add hsum
    have hofNat : BitVec.ofNat 64 data.length = length := by
      rw [hlength, BitVec.ofNat_toNat, BitVec.setWidth_eq]
    obtain ⟨size, hmul, hsize⟩ := exists_mul (x := length) (y := 8) (by rw [← hlength]; exact hlen)
    rw [if_pos supported] at hchecked
    simp only [machineUnpack, hchecked, hadd, hofNat, hmul, ok_bind]
    have hiff : bits = size ↔ data.length * 8 = (Layout.ofWords exponentBits mantissaBits).bits := by
      rw [BitVec.toNat_eq, hsize, hbits, ← hlength]
      exact eq_comm
    by_cases hdata : data.length * 8 = (Layout.ofWords exponentBits mantissaBits).bits
    · obtain ⟨word, hfold, hword⟩ := exists_wordOfBytes supported hdata
      obtain ⟨mantissa, exponent, hparts, hm, he⟩ := exists_parts supported.2.2.1 word
      rw [hword] at hm he
      rw [if_neg (not_not_intro (hiff.mpr hdata)), unpack, if_pos ⟨supported, hdata⟩]
      simp only [hfold, hparts, ok_bind]
      exact congrArg Except.ok (checkedValue_eq hm he)
    · rw [if_pos (mt hiff.mp hdata), unpack, if_neg fun h => hdata h.2]
      rfl
  · rw [if_neg supported] at hchecked
    rw [machineUnpack, hchecked, unpack, if_neg fun h => supported h.1]
    rfl

/-- In the layouts that are accepted no operation traps, whatever is packed or unpacked, and the search for
the exponent is over after 39 rounds. What is chosen for an amount has room in the layout. -/
theorem machine_words_suffice
    (accepted : checkLayout exponentBits mantissaBits = .ok (.ok ())) :
    (∀ (rounds : Nat) (amount : BitVec 128), 39 ≤ rounds →
      machinePack rounds exponentBits mantissaBits amount =
        .ok ((pack (.ofWords exponentBits mantissaBits) amount.toFin).map Bytes.toList) ∧
      ∀ c, Choice.ofAmount rounds exponentBits mantissaBits amount = .ok (.ok c) →
        c.HasRoom exponentBits mantissaBits) ∧
    ∀ data : List UInt8, data.length < 2 ^ (60 : Nat) →
      machineUnpack exponentBits mantissaBits data =
        .ok ((unpack (.ofWords exponentBits mantissaBits) data).map BitVec.ofFin) := by
  have hsum := (checkLayout_eq_ok_iff.mp accepted).sum_lt
  refine ⟨fun rounds amount hrounds => ⟨machinePack_eq hsum hrounds amount, fun c hc => ?_⟩,
    fun data hlen => machineUnpack_eq hsum (by omega)⟩
  exact Choice.hasRoom_of_ofAmount hsum hrounds hc

theorem machine_words_suffice_for_largest :
    checkLayout 8 56 = .ok (.ok ()) ∧
    machinePack 39 8 56 (.allOnes 128) =
      .ok (.ok [0x78, 0xe4, 0x80, 0x40, 0x5d, 0x7b, 0x96, 0x16]) ∧
    (∃ c, Choice.ofAmount 39 8 56 (.allOnes 128) = .ok (.ok c) ∧ c.scaled = ⟨0x78e480405d7b96, 22⟩ ∧
      c.HasRoom 8 56) ∧
    machineUnpack 8 56 [0x78, 0xe4, 0x80, 0x40, 0x5d, 0x7b, 0x96, 0x16] =
      .ok (some (.ofFin ⟨0x78e480405d7b96 * 10 ^ (22 : Nat), by decide⟩)) := by
  have accepted : checkLayout 8 56 = .ok (.ok ()) := checkLayout_eq_ok_iff.mpr (by decide)
  have hpack : pack (.ofWords 8 56) (BitVec.allOnes 128).toFin =
      .ok ⟨[0x78, 0xe4, 0x80, 0x40, 0x5d, 0x7b, 0x96, 0x16], rfl⟩ := rfl
  have hunpack : unpack (.ofWords 8 56) [0x78, 0xe4, 0x80, 0x40, 0x5d, 0x7b, 0x96, 0x16] =
      some ⟨0x78e480405d7b96 * 10 ^ (22 : Nat), by decide⟩ := rfl
  obtain ⟨hpacks, hunpacks⟩ := machine_words_suffice accepted
  obtain ⟨hresult, hroom⟩ := hpacks 39 (.allOnes 128) (Nat.le_refl 39)
  obtain ⟨r, hr, hscaled⟩ := Choice.exists_ofAmount
    (checkLayout_eq_ok_iff.mp accepted).sum_lt (Nat.le_refl powerCount) (.allOnes 128)
  rw [hpack] at hresult hscaled
  obtain ⟨c, rfl, hc⟩ := map_eq_ok_iff.mp hscaled
  refine ⟨accepted, hresult, ⟨c, hr, hc, hroom c hr⟩, ?_⟩
  rw [hunpacks _ (by decide), hunpack]
  rfl

end KeyChange.DecimalFloat
