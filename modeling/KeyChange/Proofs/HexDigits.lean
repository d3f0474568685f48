import KeyChange.Proofs.HexText

namespace KeyChange.Hex

variable {c : Char} {s : String} {digits : List Char} {bytes : List UInt8} {n position : Nat}

def IsDigit (c : Char) : Prop :=
  '0' ≤ c ∧ c ≤ '9' ∨ 'a' ≤ c ∧ c ≤ 'f' ∨ 'A' ≤ c ∧ c ≤ 'F'

instance (c : Char) : Decidable (IsDigit c) := by
  unfold IsDigit
  infer_instance

/-- The text is `0x` and the digits of the bytes, of either case. -/
def Spells (s : String) (bytes : List UInt8) : Prop :=
  ∃ digits, s.toList = '0' :: 'x' :: digits ∧ digits.map Char.toLower = encode bytes

/-- The text is `0x` and so many digits of either case. -/
def HasDigits (s : String) (count : Nat) : Prop :=
  ∃ digits, s.toList = '0' :: 'x' :: digits ∧ digits.length = count ∧ ∀ c ∈ digits, IsDigit c

theorem IsDigit.toNat_lt (h : IsDigit c) : c.toNat < 128 := by
  simp only [IsDigit, Char.le_def, UInt32.le_iff_toNat_le] at h
  have hnine : ('9' : Char).val.toNat = 57 := rfl
  have hlower : ('f' : Char).val.toNat = 102 := rfl
  have hupper : ('F' : Char).val.toNat = 70 := rfl
  change c.val.toNat < 128
  omega

theorem toNat_lt_of_toLower_eq (hn : n < 16) (h : c.toLower = digitChar n) : c.toNat < 128 := by
  have hall : ∀ i : Fin 16, (digitChar i).toNat < 128 := by decide
  have hlower := hall ⟨n, hn⟩
  rw [← h] at hlower
  unfold Char.toLower at hlower
  split at hlower
  next hupper =>
    have := hupper.2
    simp only [UInt32.le_iff_toNat_le] at this
    change c.val.toNat < 128
    exact Nat.lt_of_le_of_lt this (by decide)
  next => exact hlower

/-- The digits of either case are the characters that become digits in lower case. -/
theorem isDigit_iff : IsDigit c ↔ ∃ n < 16, c.toLower = digitChar n := by
  have hall : ∀ i : Fin 128,
      IsDigit (Char.ofNat i) ↔ ∃ n : Fin 16, (Char.ofNat i).toLower = digitChar n := by
    decide +kernel
  have hchar : Char.ofNat c.toNat = c := Char.ofNat_toNat c
  constructor
  · intro h
    obtain ⟨n, hn⟩ := (hall ⟨c.toNat, h.toNat_lt⟩).mp (by rwa [hchar])
    exact ⟨n, n.isLt, by rwa [hchar] at hn⟩
  · rintro ⟨n, hn, h⟩
    have hc := toNat_lt_of_toLower_eq hn h
    have hdigit := (hall ⟨c.toNat, hc⟩).mpr ⟨⟨n, hn⟩, by rwa [hchar]⟩
    rwa [hchar] at hdigit

theorem utf8EncodeChar_of_toLower_eq (hn : n < 16) (h : c.toLower = digitChar n) :
    ∃ b, String.utf8EncodeChar c = [b] ∧ digit? b = some n := by
  have hall : ∀ i : Fin 128, ∀ n : Fin 16, (Char.ofNat i).toLower = digitChar n →
      digit? (UInt8.ofNat i) = some n.val := by
    decide +kernel
  have hc := toNat_lt_of_toLower_eq hn h
  have hchar : Char.ofNat c.toNat = c := Char.ofNat_toNat c
  refine ⟨UInt8.ofNat c.toNat, ?_, hall ⟨c.toNat, hc⟩ ⟨n, hn⟩ (by rwa [hchar])⟩
  rw [String.utf8EncodeChar]
  exact if_pos (Nat.le_of_lt_succ hc)

theorem pairs_of_map_toLower_eq (h : digits.map Char.toLower = encode bytes) :
    pairs position (digits.flatMap String.utf8EncodeChar) = .ok bytes := by
  induction bytes generalizing digits position with
  | nil =>
    rw [encode, List.map_eq_nil_iff] at h
    rw [h]
    rfl
  | cons b bs ih =>
    have hb := b.toNat_lt
    obtain ⟨high, ds, rfl, hhigh, h⟩ := List.map_eq_cons_iff.mp h
    obtain ⟨low, rest, rfl, hlow, h⟩ := List.map_eq_cons_iff.mp h
    obtain ⟨x, hx, hxdigit⟩ := utf8EncodeChar_of_toLower_eq (by omega) hhigh
    obtain ⟨y, hy, hydigit⟩ := utf8EncodeChar_of_toLower_eq (by omega) hlow
    have hsum : 16 * (b.toNat / 16) + b.toNat % 16 = b.toNat := Nat.div_add_mod _ _
    simp [hx, hy, pairs, hxdigit, hydigit, ih h, hsum]

theorem length_of_pairs {text : List UInt8} (h : pairs position text = .ok bytes) :
    text.length = 2 * bytes.length := by
  fun_induction pairs position text generalizing bytes with
  | case1 =>
    cases h
    rfl
  | case2 => simp at h
  | case3 => simp at h
  | case4 => simp at h
  | case5 => simp at h
  | case6 position high low rest _ _ _ _ bytes' hrest ih =>
    cases h
    simp only [List.length_cons, ih hrest]
    omega

theorem pairs_eq_ok_iff (position : Nat) :
    pairs position (digits.flatMap String.utf8EncodeChar) = .ok bytes ↔
      digits.map Char.toLower = encode bytes :=
  ⟨fun h => (encode_of_pairs h rfl).symm, pairs_of_map_toLower_eq⟩

theorem decode_eq_ok_iff :
    decode (utf8 s) = .ok bytes ↔ s.toList.map Char.toLower = encode bytes := by
  rw [← pairs_eq_ok_iff 0, decode]
  have hlen (h : pairs 0 (utf8 s) = .ok bytes) := length_of_pairs h
  split
  next hodd =>
    refine iff_of_false (by simp) fun h => hodd ?_
    have := hlen h
    omega
  next => exact Iff.rfl

theorem decodeExact_eq_ok_iff : decodeExact n (utf8 s) = .ok bytes ↔
    s.toList.map Char.toLower = encode bytes ∧ bytes.length = n := by
  rw [← pairs_eq_ok_iff 0, decodeExact]
  have hlen (h : pairs 0 (utf8 s) = .ok bytes) := length_of_pairs h
  split
  next hodd =>
    refine iff_of_false (by simp) fun ⟨h, _⟩ => hodd ?_
    have := hlen h
    omega
  next =>
    split
    next hother =>
      refine iff_of_false (by simp) fun ⟨h, hn⟩ => hother ?_
      have := hlen h
      omega
    next hn =>
      refine (and_iff_left_of_imp fun h => ?_).symm
      have := hlen h
      omega

theorem unprefixed?_eq_some_iff {t : String} :
    unprefixed? s = some t ↔ s.toList = '0' :: 'x' :: t.toList := by
  refine ⟨toList_of_unprefixed?, fun h => ?_⟩
  simp only [unprefixed?, h, String.ofList_toList]

/-- A text is read if and only if it spells bytes, and as these. -/
theorem decodePrefixed_eq_ok_iff : decodePrefixed s = .ok bytes ↔ Spells s bytes := by
  constructor
  · intro h
    obtain ⟨digits, hdigits, hpairs⟩ := pairs_of_decodePrefixed h
    exact ⟨digits.toList, toList_of_unprefixed? hdigits, (encode_of_pairs hpairs rfl).symm⟩
  · rintro ⟨digits, hs, hlower⟩
    have hunprefixed : unprefixed? s = some (String.ofList digits) := by
      simp only [unprefixed?, hs]
    have hpairs : pairs 0 (utf8 (String.ofList digits)) = .ok bytes := by
      rw [utf8, String.toList_ofList]
      exact pairs_of_map_toLower_eq hlower
    have hlen := length_of_pairs hpairs
    have heven : ¬(utf8 (String.ofList digits)).length % 2 ≠ 0 := by omega
    simp only [decodePrefixed, hunprefixed, if_neg heven, decode, hpairs]

theorem decodeField_eq_ok_iff {field : String} :
    decodeField field s = .ok bytes ↔ Spells s bytes := by
  rw [decodeField, mapError_eq_ok_iff, decodePrefixed_eq_ok_iff]

theorem exists_digitChar_of_mem_encode (h : c ∈ encode bytes) : ∃ n < 16, c = digitChar n := by
  induction bytes with
  | nil => simp [encode] at h
  | cons b bs ih =>
    have hb := b.toNat_lt
    simp only [encode, List.mem_cons] at h
    rcases h with rfl | rfl | h
    · exact ⟨_, by omega, rfl⟩
    · exact ⟨_, by omega, rfl⟩
    · exact ih h

theorem isDigit_of_map_toLower_eq (h : digits.map Char.toLower = encode bytes) (hc : c ∈ digits) :
    IsDigit c := by
  have hmem : c.toLower ∈ encode bytes := h ▸ List.mem_map_of_mem hc
  exact isDigit_iff.mpr (exists_digitChar_of_mem_encode hmem)

theorem exists_encode_eq (hlen : digits.length = 2 * n) (h : ∀ c ∈ digits, IsDigit c) :
    ∃ bytes, digits.map Char.toLower = encode bytes := by
  induction n generalizing digits with
  | zero =>
    rw [List.eq_nil_of_length_eq_zero hlen]
    exact ⟨[], rfl⟩
  | succ n ih =>
    match digits, hlen with
    | high :: low :: rest, hlen =>
      obtain ⟨x, hx, hhigh⟩ := isDigit_iff.mp (h high (by simp))
      obtain ⟨y, hy, hlow⟩ := isDigit_iff.mp (h low (by simp))
      have hrest : rest.length = 2 * n := by
        simp only [List.length_cons] at hlen
        omega
      obtain ⟨bytes, hbytes⟩ := ih hrest fun c hc => h c (by simp [hc])
      have hbyte : (UInt8.ofNat (16 * x + y)).toNat = 16 * x + y := by
        simp only [UInt8.toNat_ofNat']
        omega
      have hdiv : (16 * x + y) / 16 = x := by omega
      have hmod : (16 * x + y) % 16 = y := by omega
      refine ⟨UInt8.ofNat (16 * x + y) :: bytes, ?_⟩
      rw [List.map_cons, List.map_cons, encode, hbyte, hdiv, hmod, hhigh, hlow, hbytes]

theorem exists_spells_iff :
    (∃ bytes, Spells s bytes ∧ bytes.length = n) ↔ HasDigits s (2 * n) := by
  constructor
  · rintro ⟨bytes, ⟨digits, hs, hlower⟩, rfl⟩
    refine ⟨digits, hs, ?_, ?_⟩
    · rw [← length_encode, ← hlower, List.length_map]
    · exact fun c hc => isDigit_of_map_toLower_eq hlower hc
  · rintro ⟨digits, hs, hlen, hdigits⟩
    obtain ⟨bytes, hbytes⟩ := exists_encode_eq hlen hdigits
    refine ⟨bytes, ⟨digits, hs, hbytes⟩, ?_⟩
    have := length_encode bytes
    rw [← hbytes, List.length_map] at this
    omega

end KeyChange.Hex

namespace KeyChange.Rollup.KeyHash

variable {field s : String}

theorem ofHex_eq_ok_iff {hash : KeyHash} :
    ofHex field s = .ok hash ↔ Hex.Spells s hash.toList := by
  simp only [ofHex, bind_eq_ok_iff, Hex.decodeField_eq_ok_iff]
  constructor
  · rintro ⟨bytes, hbytes, h⟩
    split at h
    next => cases h
    next hash' hsome =>
      cases h
      exact Bytes.ofList?_eq_some_iff.mp hsome ▸ hbytes
  · intro h
    have hlist : Bytes.ofList? size hash.toList = some hash := Bytes.ofList?_toList hash
    exact ⟨hash.toList, h, by rw [hlist]⟩

end KeyChange.Rollup.KeyHash
