import KeyChange.Proofs.ApprovalText
import KeyChange.Proofs.HexDigits
import KeyChange.Proofs.MessageElements
import KeyChange.Proofs.SignatureText

namespace KeyChange

namespace Hex

variable {c : Char} {digits digits' : List Char} {bytes : List UInt8} {s : String} {n : Nat}

def digitValue (c : Char) : Nat :=
  if c.toLower.isDigit then c.toLower.toNat - 48 else c.toLower.toNat - 87

/-- The number that digits spell, the most significant one first. -/
def value (digits : List Char) : Nat := digits.foldl (fun n c => 16 * n + digitValue c) 0

/-- The number that the digits after `0x` spell. -/
def number (s : String) : Nat := value (s.toList.drop 2)

def text (digits : List Char) : String := String.ofList ('0' :: 'x' :: digits)

theorem number_of_toList_eq (hs : s.toList = '0' :: 'x' :: digits) : number s = value digits := by
  rw [number, hs]
  rfl

theorem number_text (digits : List Char) : number (text digits) = value digits :=
  number_of_toList_eq String.toList_ofList

theorem hasDigits_text_iff : HasDigits (text digits) n ↔
    digits.length = n ∧ ∀ c ∈ digits, IsDigit c := by
  rw [HasDigits, text, String.toList_ofList]
  constructor
  · rintro ⟨_, ⟨⟩, h⟩
    exact h
  · exact fun h => ⟨digits, rfl, h⟩

theorem digitValue_of_toLower_eq (hn : n < 16) (h : c.toLower = digitChar n) :
    digitValue c = n := by
  have hall : ∀ i : Fin 16,
      (if (digitChar i).isDigit then (digitChar i).toNat - 48 else (digitChar i).toNat - 87) = i := by
    decide
  rw [digitValue, h]
  exact hall ⟨n, hn⟩

theorem foldl_of_map_toLower_eq (h : digits.map Char.toLower = encode bytes) :
    digits.foldl (fun n c => 16 * n + digitValue c) n =
      256 ^ bytes.length * n + ofBigEndian bytes := by
  induction bytes generalizing digits n with
  | nil =>
    rw [encode, List.map_eq_nil_iff] at h
    simp [h, ofBigEndian, ofLittleEndian]
  | cons b bs ih =>
    have hb := b.toNat_lt
    obtain ⟨high, ds, rfl, hhigh, h⟩ := List.map_eq_cons_iff.mp h
    obtain ⟨low, rest, rfl, hlow, h⟩ := List.map_eq_cons_iff.mp h
    have hstep : 16 * (16 * n + b.toNat / 16) + b.toNat % 16 = 256 * n + b.toNat := by omega
    rw [List.foldl_cons, List.foldl_cons, digitValue_of_toLower_eq (by omega) hhigh,
      digitValue_of_toLower_eq (by omega) hlow, hstep, ih h, ofBigEndian_cons, List.length_cons,
      Nat.pow_succ, Nat.mul_add, Nat.mul_assoc]
    omega

theorem value_of_map_toLower_eq (h : digits.map Char.toLower = encode bytes) :
    value digits = ofBigEndian bytes := by
  rw [value, foldl_of_map_toLower_eq h, Nat.mul_zero, Nat.zero_add]

theorem value_zeros_append (zeros : Nat) (digits : List Char) :
    value (List.replicate zeros '0' ++ digits) = value digits := by
  have hzeros : (List.replicate zeros '0').foldl (fun n c => 16 * n + digitValue c) 0 = 0 := by
    induction zeros with
    | zero => rfl
    | succ zeros ih => exact ih
  rw [value, List.foldl_append, hzeros, value]

theorem value_eq_of_map_toLower_eq (h : digits.map Char.toLower = digits'.map Char.toLower) :
    value digits = value digits' := by
  have hlower (ds : List Char) : value ds = (ds.map Char.toLower).foldl
      (fun n c => 16 * n + if c.isDigit then c.toNat - 48 else c.toNat - 87) 0 := by
    rw [List.foldl_map]
    rfl
  rw [hlower, hlower, h]

theorem forall_isDigit_iff_of_map_toLower_eq
    (h : digits.map Char.toLower = digits'.map Char.toLower) :
    (∀ c ∈ digits, IsDigit c) ↔ ∀ c ∈ digits', IsDigit c := by
  have hlower (ds : List Char) :
      (∀ c ∈ ds, IsDigit c) ↔ ∀ d ∈ ds.map Char.toLower, ∃ n < 16, d = digitChar n := by
    simp only [List.forall_mem_map, isDigit_iff]
  rw [hlower, hlower, h]

theorem length_utf8_of_isDigit (h : ∀ c ∈ s.toList, IsDigit c) :
    (utf8 s).length = s.toList.length := by
  rw [utf8_of_ascii fun c hc => (h c hc).toNat_lt, List.length_map]

end Hex

namespace Stark.Felt

variable {field field' s s' : String} {x y : Felt} {e : FieldError} {digits digits' : List Char}

theorem field_of_ofHex (h : ofHex field s = .error e) : e.field = field := by
  unfold ofHex at h
  split at h
  next => cases h; rfl
  next =>
    split at h
    next => cases h; rfl
    next =>
      split at h
      next => cases h; rfl
      next =>
        split at h
        next => cases h; rfl
        next => cases h

theorem toList_padDigits (digits : String) :
    (padDigits digits).toList =
      List.replicate (64 - digits.toList.length) '0' ++ digits.toList := by
  simp [padDigits]

theorem exists_decodeExact_padDigits {t : String} (hle : t.toList.length ≤ 64)
    (hall : ∀ c ∈ t.toList, Hex.IsDigit c) :
    ∃ bytes, Hex.decodeExact 32 (utf8 (padDigits t)) = .ok bytes ∧
      ofBigEndian bytes = Hex.value t.toList := by
  have hpadded : ∀ c ∈ (padDigits t).toList, Hex.IsDigit c := by
    rw [toList_padDigits]
    intro c hc
    rcases List.mem_append.mp hc with hzero | hc
    · rw [List.eq_of_mem_replicate hzero]
      decide
    · exact hall c hc
  have hlen : (padDigits t).toList.length = 2 * 32 := by
    rw [toList_padDigits, List.length_append, List.length_replicate]
    omega
  obtain ⟨bytes, hbytes⟩ := Hex.exists_encode_eq hlen hpadded
  have hbyteslen := Hex.length_encode bytes
  rw [← hbytes, List.length_map, hlen] at hbyteslen
  refine ⟨bytes, Hex.decodeExact_eq_ok_iff.mpr ⟨hbytes, by omega⟩, ?_⟩
  rw [← Hex.value_of_map_toLower_eq hbytes, toList_padDigits, Hex.value_zeros_append]

theorem digits_of_decodeExact_padDigits {t : String} {bytes : List UInt8}
    (h : Hex.decodeExact 32 (utf8 (padDigits t)) = .ok bytes) :
    (∀ c ∈ t.toList, Hex.IsDigit c) ∧ ofBigEndian bytes = Hex.value t.toList := by
  obtain ⟨hlower, -⟩ := Hex.decodeExact_eq_ok_iff.mp h
  rw [toList_padDigits] at hlower
  refine ⟨fun c hc => Hex.isDigit_of_map_toLower_eq hlower (List.mem_append_right _ hc), ?_⟩
  rw [← Hex.value_of_map_toLower_eq hlower, Hex.value_zeros_append]

/-- A text is read if and only if it has one to 64 digits, as the element of their number. -/
theorem ofHex_eq_ok_iff : ofHex field s = .ok x ↔
    (∃ count, 1 ≤ count ∧ count ≤ 64 ∧ Hex.HasDigits s count) ∧ Hex.number s = x.val := by
  constructor
  · intro h
    unfold ofHex at h
    split at h
    next => simp at h
    next t ht =>
      split at h
      next => simp at h
      next hcount =>
        split at h
        next => simp at h
        next bytes hbytes =>
          split at h
          next => simp at h
          next y hy =>
            cases h
            obtain ⟨hall, hvalue⟩ := digits_of_decodeExact_padDigits hbytes
            have hs := Hex.unprefixed?_eq_some_iff.mp ht
            rw [Hex.length_utf8_of_isDigit hall] at hcount
            refine ⟨⟨t.toList.length, by omega, by omega, t.toList, hs, rfl, hall⟩, ?_⟩
            rw [Hex.number_of_toList_eq hs, ← hvalue, ofList?_eq_some_iff.mp hy]
  · rintro ⟨⟨count, hpos, hle, digits, hs, rfl, hall⟩, hnumber⟩
    obtain ⟨t, rfl⟩ : ∃ t : String, digits = t.toList := ⟨.ofList digits, String.toList_ofList.symm⟩
    obtain ⟨bytes, hbytes, hvalue⟩ := exists_decodeExact_padDigits hle hall
    have hcount : ¬((utf8 t).length = 0 ∨ 64 < (utf8 t).length) := by
      rw [Hex.length_utf8_of_isDigit hall]
      omega
    rw [Hex.number_of_toList_eq hs, ← hvalue] at hnumber
    simp only [ofHex, Hex.unprefixed?_eq_some_iff.mpr hs, if_neg hcount, hbytes,
      ofList?_eq_some_iff.mpr hnumber]

theorem ofHex_text_eq_ok_iff : ofHex field (Hex.text digits) = .ok x ↔
    1 ≤ digits.length ∧ digits.length ≤ 64 ∧ (∀ c ∈ digits, Hex.IsDigit c) ∧
      Hex.value digits = x.val := by
  rw [ofHex_eq_ok_iff, Hex.number_text]
  simp only [Hex.hasDigits_text_iff]
  constructor
  · rintro ⟨⟨_, hpos, hle, rfl, hall⟩, hvalue⟩
    exact ⟨hpos, hle, hall, hvalue⟩
  · rintro ⟨hpos, hle, hall, hvalue⟩
    exact ⟨⟨_, hpos, hle, rfl, hall⟩, hvalue⟩

theorem ofHex_zeros_append_iff {zeros : Nat} (hne : digits ≠ [])
    (hle : zeros + digits.length ≤ 64) :
    ofHex field (Hex.text (List.replicate zeros '0' ++ digits)) = .ok x ↔
      ofHex field (Hex.text digits) = .ok x := by
  have hpos : 0 < digits.length := List.length_pos_iff.mpr hne
  have hzero : Hex.IsDigit '0' := by decide
  have hall : (∀ c ∈ List.replicate zeros '0' ++ digits, Hex.IsDigit c) ↔
      ∀ c ∈ digits, Hex.IsDigit c := by
    rw [List.forall_mem_append]
    exact and_iff_right fun c hc => List.eq_of_mem_replicate hc ▸ hzero
  rw [ofHex_text_eq_ok_iff, ofHex_text_eq_ok_iff, Hex.value_zeros_append, hall, List.length_append,
    List.length_replicate]
  exact ⟨fun h => ⟨by omega, by omega, h.2.2⟩, fun h => ⟨by omega, by omega, h.2.2⟩⟩

theorem ofHex_iff_of_map_toLower_eq (h : digits.map Char.toLower = digits'.map Char.toLower) :
    ofHex field (Hex.text digits) = .ok x ↔ ofHex field (Hex.text digits') = .ok x := by
  have hlen : digits.length = digits'.length := by simpa using congrArg List.length h
  rw [ofHex_text_eq_ok_iff, ofHex_text_eq_ok_iff, hlen,
    Hex.forall_isDigit_iff_of_map_toLower_eq h, Hex.value_eq_of_map_toLower_eq h]

theorem eq_iff_number_eq (hx : ofHex field s = .ok x) (hy : ofHex field' s' = .ok y) :
    x = y ↔ Hex.number s = Hex.number s' := by
  rw [(ofHex_eq_ok_iff.mp hx).2, (ofHex_eq_ok_iff.mp hy).2, Fin.ext_iff]

/-- A text is read if and only if it is `0x` and one to 64 digits of a number below the modulus, as the
element of that number, and every other text is refused for its field. So zeros in front and the case of
the digits never change what is read, and two texts are read as one element exactly if they have one
number. -/
theorem ofHex_reads_number (field s : String) :
    (∀ x, ofHex field s = .ok x ↔
      (∃ count, 1 ≤ count ∧ count ≤ 64 ∧ Hex.HasDigits s count) ∧
      Hex.number s < 2 ^ (251 : Nat) + 17 * 2 ^ (192 : Nat) + 1 ∧ x.val = Hex.number s) ∧
    ((∃ fault, ofHex field s = .error ⟨field, fault⟩) ↔
      ¬((∃ count, 1 ≤ count ∧ count ≤ 64 ∧ Hex.HasDigits s count) ∧
        Hex.number s < 2 ^ (251 : Nat) + 17 * 2 ^ (192 : Nat) + 1)) ∧
    (∀ zeros digits x, digits ≠ [] → zeros + digits.length ≤ 64 →
      (ofHex field (Hex.text (List.replicate zeros '0' ++ digits)) = .ok x ↔
        ofHex field (Hex.text digits) = .ok x)) ∧
    (∀ digits digits' x, digits.map Char.toLower = digits'.map Char.toLower →
      (ofHex field (Hex.text digits) = .ok x ↔ ofHex field (Hex.text digits') = .ok x)) ∧
    ∀ field' s' x y, ofHex field s = .ok x → ofHex field' s' = .ok y →
      (x = y ↔ Hex.number s = Hex.number s') := by
  have haccepted (x : Felt) : ofHex field s = .ok x ↔
      (∃ count, 1 ≤ count ∧ count ≤ 64 ∧ Hex.HasDigits s count) ∧
      Hex.number s < 2 ^ (251 : Nat) + 17 * 2 ^ (192 : Nat) + 1 ∧ x.val = Hex.number s := by
    rw [ofHex_eq_ok_iff, ← modulus_eq]
    exact and_congr_right fun _ => ⟨fun h => ⟨h ▸ x.isLt, h.symm⟩, fun h => h.2.symm⟩
  refine ⟨haccepted, ?_, fun _ _ _ => ofHex_zeros_append_iff,
    fun _ _ _ => ofHex_iff_of_map_toLower_eq, fun _ _ _ _ => eq_iff_number_eq⟩
  cases h : ofHex field s with
  | error e =>
    refine iff_of_true ⟨e.fault, by rw [← field_of_ofHex h]⟩ fun ⟨hdigits, hlt⟩ => ?_
    have := (haccepted ⟨_, modulus_eq ▸ hlt⟩).mpr ⟨hdigits, hlt, rfl⟩
    cases h.symm.trans this
  | ok x =>
    obtain ⟨hdigits, hlt, -⟩ := (haccepted x).mp h
    exact iff_of_false (by simp) fun hnot => hnot ⟨hdigits, hlt⟩

theorem number_read_from_two_spellings :
    let digits := ['a', 'B']
    let digits' := ['A', 'b']
    (digits ≠ [] ∧ 1 + digits.length ≤ 64 ∧
      (ofHex "address" (Hex.text (List.replicate 1 '0' ++ digits)) = .ok 171 ↔
        ofHex "address" (Hex.text digits) = .ok 171)) ∧
    (digits.map Char.toLower = digits'.map Char.toLower ∧
      (ofHex "address" (Hex.text digits) = .ok 171 ↔
        ofHex "address" (Hex.text digits') = .ok 171)) ∧
    ∃ x y, (ofHex "address" "0x0aB" = .ok x ∧ ofHex "address" "0xAb" = .ok y) ∧
      (x = y ↔ Hex.number "0x0aB" = Hex.number "0xAb") := by
  intro digits digits'
  obtain ⟨-, -, hzeros, hcase, haccounts⟩ := ofHex_reads_number "address" "0x0aB"
  have hx : ofHex "address" "0x0aB" = .ok 171 := rfl
  have hy : ofHex "address" "0xAb" = .ok 171 := rfl
  have hne : digits ≠ [] := by decide
  have hlen : 1 + digits.length ≤ 64 := by decide
  have hlower : digits.map Char.toLower = digits'.map Char.toLower := rfl
  exact ⟨⟨hne, hlen, hzeros 1 digits 171 hne hlen⟩,
    ⟨hlower, hcase digits digits' 171 hlower⟩,
    171, 171, ⟨hx, hy⟩, haccounts "address" "0xAb" 171 171 hx hy⟩

end Stark.Felt

end KeyChange
