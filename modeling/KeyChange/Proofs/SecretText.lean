import KeyChange.Ethereum.Key
import KeyChange.Starknet.Key
import KeyChange.Proofs.FeltText
import KeyChange.Proofs.Outcome

namespace KeyChange

theorem ofBigEndian_lt_iff {xs ys : List UInt8} (hlen : xs.length = ys.length) :
    ofBigEndian xs < ofBigEndian ys ↔ xs < ys := by
  induction xs generalizing ys with
  | nil =>
    rw [List.eq_nil_of_length_eq_zero hlen.symm]
    simp
  | cons x xs ih =>
    cases ys with
    | nil => simp at hlen
    | cons y ys =>
      have htail : xs.length = ys.length := by simpa using hlen
      have hx := ofBigEndian_lt xs
      have hy := ofBigEndian_lt ys
      rw [List.cons_lt_cons_iff, ← ih htail, ofBigEndian_cons, ofBigEndian_cons, htail]
      rw [htail] at hx
      rw [UInt8.lt_iff_toNat_lt, ← UInt8.toNat_inj]
      -- The first byte that differs outweighs all the bytes after it.
      rcases Nat.lt_trichotomy x.toNat y.toNat with hlt | heq | hgt
      · have hmul := Nat.mul_le_mul_left (256 ^ ys.length) (Nat.succ_le_of_lt hlt)
        rw [Nat.mul_succ] at hmul
        omega
      · rw [heq]
        omega
      · have hmul := Nat.mul_le_mul_left (256 ^ ys.length) (Nat.succ_le_of_lt hgt)
        rw [Nat.mul_succ] at hmul
        omega

namespace Secret

variable {s : String} {bytes : Bytes 32} {ds : List Char}

/-- What stands after the `0x` of a text, or the whole text where there is none. -/
def digits (s : String) : String := (Hex.unprefixed? s).getD s

/-- The text is 64 digits of either case, with or without `0x` before them. -/
structure IsWritten (s : String) (ds : List Char) : Prop where
  toList_eq : s.toList = ds ∨ s.toList = '0' :: 'x' :: ds
  length_eq : ds.length = 64
  isDigit : ∀ c ∈ ds, Hex.IsDigit c

/-- The text is the digits of the bytes, with or without `0x` before them. -/
def Spells (s : String) (bytes : Bytes 32) : Prop :=
  ∃ ds, (s.toList = ds ∨ s.toList = '0' :: 'x' :: ds) ∧ ds.map Char.toLower = Hex.encode bytes.toList

/-- No digit is an `x`, so digits that are a whole text are not cut. -/
theorem toList_digits_eq_iff (h : ∀ c ∈ ds, Hex.IsDigit c) :
    (digits s).toList = ds ↔ s.toList = ds ∨ s.toList = '0' :: 'x' :: ds := by
  unfold digits
  cases hs : Hex.unprefixed? s with
  | none =>
    rw [Option.getD_none]
    refine ⟨Or.inl, ?_⟩
    rintro (hwhole | hprefixed)
    · exact hwhole
    · have hsome : Hex.unprefixed? s = some (.ofList ds) :=
        Hex.unprefixed?_eq_some_iff.mpr (by rw [hprefixed, String.toList_ofList])
      cases hs.symm.trans hsome
  | some t =>
    have ht := Hex.unprefixed?_eq_some_iff.mp hs
    rw [Option.getD_some, ht]
    constructor
    · rintro rfl
      exact Or.inr rfl
    · rintro (rfl | hprefixed)
      · exact absurd (h 'x' (by simp)) (by decide)
      · exact (List.cons.inj (List.cons.inj hprefixed).2).2

theorem length_of_map_toLower_eq (h : ds.map Char.toLower = Hex.encode bytes.toList) :
    ds.length = 64 := by
  have hlen := congrArg List.length h
  rwa [List.length_map, Hex.length_encode, bytes.length_toList] at hlen

theorem parse_eq_ok_iff_digits :
    parse s = .ok bytes ↔ (digits s).toList.map Char.toLower = Hex.encode bytes.toList := by
  have hdecode (bs : List UInt8) : Hex.decodeExact 32 (utf8 (digits s)) = .ok bs ↔
      (digits s).toList.map Char.toLower = Hex.encode bs ∧ bs.length = 32 :=
    Hex.decodeExact_eq_ok_iff
  constructor
  · intro h
    unfold parse at h
    dsimp only at h
    split at h
    next => cases h
    next =>
      split at h
      next => cases h
      next bs hbs =>
        split at h
        next => cases h
        next key hkey =>
          cases h
          rw [← Bytes.ofList?_eq_some_iff.mp hkey]
          exact ((hdecode bs).mp hbs).1
  · intro h
    have hall : ∀ c ∈ (digits s).toList, Hex.IsDigit c := fun c => Hex.isDigit_of_map_toLower_eq h
    have hlen : (utf8 (digits s)).length = 64 :=
      (Hex.length_utf8_of_isDigit hall).trans (length_of_map_toLower_eq h)
    have hbytes := (hdecode bytes.toList).mpr ⟨h, bytes.length_toList⟩
    unfold digits at hlen hbytes
    simp only [parse, hlen, hbytes, Bytes.ofList?_toList, ne_eq, not_true_eq_false, if_false]

theorem parse_eq_ok_iff : parse s = .ok bytes ↔ Spells s bytes := by
  rw [parse_eq_ok_iff_digits]
  constructor
  · intro h
    have hall : ∀ c ∈ (digits s).toList, Hex.IsDigit c := fun c => Hex.isDigit_of_map_toLower_eq h
    exact ⟨(digits s).toList, (toList_digits_eq_iff hall).mp rfl, h⟩
  · rintro ⟨ds, hs, hlower⟩
    have hall : ∀ c ∈ ds, Hex.IsDigit c := fun c => Hex.isDigit_of_map_toLower_eq hlower
    rw [(toList_digits_eq_iff hall).mpr hs, hlower]

theorem spells_iff : Spells s bytes ↔ ∃ ds, IsWritten s ds ∧ Hex.value ds = bytes.toNat := by
  constructor
  · rintro ⟨ds, hs, hlower⟩
    exact ⟨ds, ⟨hs, length_of_map_toLower_eq hlower, fun c => Hex.isDigit_of_map_toLower_eq hlower⟩,
      Hex.value_of_map_toLower_eq hlower⟩
  · rintro ⟨ds, ⟨hs, hlen, hall⟩, hvalue⟩
    obtain ⟨bs, hbs⟩ := Hex.exists_encode_eq (n := 32) hlen hall
    have hbslen := Hex.length_encode bs
    rw [← hbs, List.length_map, hlen] at hbslen
    have hnumber : (⟨bs, by omega⟩ : Bytes 32).toNat = bytes.toNat :=
      (Hex.value_of_map_toLower_eq hbs).symm.trans hvalue
    exact ⟨ds, hs, by rw [← Bytes.toNat_injective hnumber, hbs]⟩

theorem IsWritten.value_eq (h : IsWritten s ds) (hs : Spells s bytes) :
    Hex.value ds = bytes.toNat := by
  have hlower := parse_eq_ok_iff_digits.mp (parse_eq_ok_iff.mpr hs)
  rw [(toList_digits_eq_iff h.isDigit).mpr h.toList_eq] at hlower
  exact Hex.value_of_map_toLower_eq hlower

def count (s : String) : Nat := (utf8 (digits s)).length

def IsHex (s : String) : Prop := ∀ c ∈ (digits s).toList, Hex.IsDigit c

instance (s : String) : Decidable (IsHex s) :=
  List.decidableBAll Hex.IsDigit (digits s).toList

/-- What is looked at in a text, in this order, and the fault where it is not so. -/
def conditions (s : String) : List (Prop × KeyFault) :=
  [(count s = 64, .digitCount (count s)), (IsHex s, .notHex)]

theorem parse_reports (s : String) : Reports (parse s) (conditions s) := by
  refine .cons (fun hlen => .cons (fun hall => ?_) fun hother => ?_) fun hlen => if_pos hlen
  · have hcount : (digits s).toList.length = 2 * 32 :=
      (Hex.length_utf8_of_isDigit hall).symm.trans hlen
    obtain ⟨bs, hbs⟩ := Hex.exists_encode_eq hcount hall
    have hbslen := Hex.length_encode bs
    rw [← hbs, List.length_map, hcount] at hbslen
    have hok : parse s = .ok ⟨bs, by omega⟩ := parse_eq_ok_iff_digits.mpr hbs
    rw [hok]
    exact .ok _
  · cases h : parse s with
    | ok bytes =>
      exact absurd (fun c => Hex.isDigit_of_map_toLower_eq (parse_eq_ok_iff_digits.mp h)) hother
    | error fault =>
      unfold count digits at hlen
      unfold parse at h
      simp only [hlen, ne_eq, not_true_eq_false, if_false] at h
      split at h
      next => exact h.symm
      next =>
        split at h
        next => exact h.symm
        next => cases h

end Secret

namespace Starknet.Key

variable {s : String} {key : Key}

theorem parse_eq_bind (s : String) : parse s = Secret.parse s >>= fun bytes =>
    if bytes.toNat = 0 ∨ Stark.order ≤ bytes.toNat then .error .notStarknetKey
    else .ok ⟨bytes.toNat, StarkEcdsa.publicKey bytes.toNat⟩ := by
  unfold parse
  cases Secret.parse s <;> rfl

def IsSecret (n : Nat) : Prop := 1 ≤ n ∧ n < Stark.order

def conditions (s : String) : List (Prop × KeyFault) :=
  Secret.conditions s ++ [(IsSecret (Hex.value (Secret.digits s).toList), .notStarknetKey)]

theorem parse_reports (s : String) : Reports (parse s) (conditions s) := by
  rw [parse_eq_bind]
  refine (Secret.parse_reports s).bind fun bytes hbytes => .guard ?_ fun _ => .ok _
  have hvalue : Hex.value (Secret.digits s).toList = bytes.toNat :=
    Hex.value_of_map_toLower_eq (Secret.parse_eq_ok_iff_digits.mp hbytes)
  unfold IsSecret
  omega

/-- A text is a key if and only if it is 64 digits of a number in range, and the key of that number. -/
theorem parse_eq_ok_iff : parse s = .ok key ↔ ∃ ds, Secret.IsWritten s ds ∧ IsSecret (Hex.value ds) ∧
    key = ⟨Hex.value ds, StarkEcdsa.publicKey (Hex.value ds)⟩ := by
  rw [parse_eq_bind, bind_eq_ok_iff]
  simp only [Secret.parse_eq_ok_iff, Secret.spells_iff, IsSecret]
  constructor
  · rintro ⟨bytes, ⟨ds, hs, hvalue⟩, hkey⟩
    split at hkey
    next => cases hkey
    next hrange =>
      rw [← hvalue] at hkey hrange
      exact ⟨ds, hs, by omega, (Except.ok.inj hkey).symm⟩
  · rintro ⟨ds, hs, hrange, rfl⟩
    have hlt : Hex.value ds < 256 ^ (32 : Nat) := Nat.lt_trans hrange.2 (by decide)
    have hnumber : (Bytes.ofNat 32 (Hex.value ds)).toNat = Hex.value ds := by
      rw [Bytes.toNat_ofNat, Nat.mod_eq_of_lt hlt]
    refine ⟨Bytes.ofNat 32 (Hex.value ds), ⟨ds, hs, hnumber.symm⟩, ?_⟩
    rw [hnumber, if_neg (by omega)]

end Starknet.Key

namespace Ethereum.Key

def IsSecret (n : Nat) : Prop :=
  (1 ≤ n ∧ n < Secp256k1.order) ∧ ∃ p, Recoverable.publicKey? n = some p

theorem ofBytes_reports (bytes : Bytes 32) :
    Reports (ofBytes bytes) [(IsSecret bytes.toNat, .notEthereumKey)] := by
  unfold ofBytes
  dsimp only
  refine .cons ?_ ?_
  · rintro ⟨hrange, ⟨x, y⟩, hpoint⟩
    rw [if_neg (by omega), hpoint]
    exact .ok _
  · intro hother
    split
    next => rfl
    next hrange =>
      split
      next => rfl
      next hpoint => exact absurd ⟨by omega, _, hpoint⟩ hother

theorem parse_eq_bind (s : String) : parse s = Secret.parse s >>= ofBytes := by
  unfold parse
  cases Secret.parse s <;> rfl

def conditions (s : String) : List (Prop × KeyFault) :=
  Secret.conditions s ++ [(IsSecret (Hex.value (Secret.digits s).toList), .notEthereumKey)]

theorem parse_reports (s : String) : Reports (parse s) (conditions s) := by
  rw [parse_eq_bind]
  refine (Secret.parse_reports s).bind fun bytes hbytes => ?_
  rw [Hex.value_of_map_toLower_eq (Secret.parse_eq_ok_iff_digits.mp hbytes)]
  exact ofBytes_reports bytes

end Ethereum.Key

end KeyChange
