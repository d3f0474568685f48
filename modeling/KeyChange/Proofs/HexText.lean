import KeyChange.Rollup.Signature
import KeyChange.Proofs.Outcome

namespace KeyChange.Hex

def digitByte (n : Nat) : UInt8 := UInt8.ofNat (digitChar n).toNat

theorem digit?_digitByte {n : Nat} (h : n < 16) :
    String.utf8EncodeChar (digitChar n) = [digitByte n] ∧ digit? (digitByte n) = some n := by
  have hall : ∀ i : Fin 16, String.utf8EncodeChar (digitChar i) = [digitByte i] ∧
      digit? (digitByte i) = some i.val := by decide
  exact hall ⟨n, h⟩

theorem utf8_encode_cons (b : UInt8) (bs : List UInt8) :
    utf8 (String.ofList (encode (b :: bs))) =
      digitByte (b.toNat / 16) :: digitByte (b.toNat % 16) :: utf8 (String.ofList (encode bs)) := by
  have hb := b.toNat_lt
  have hhigh := (digit?_digitByte (show b.toNat / 16 < 16 by omega)).1
  have hlow := (digit?_digitByte (show b.toNat % 16 < 16 by omega)).1
  simp [utf8, encode, hhigh, hlow]

theorem length_utf8_encode (bytes : List UInt8) :
    (utf8 (String.ofList (encode bytes))).length = 2 * bytes.length := by
  induction bytes with
  | nil => rfl
  | cons b bs ih =>
    simp only [utf8_encode_cons, List.length_cons, ih]
    omega

theorem pairs_encode (position : Nat) (bytes : List UInt8) :
    pairs position (utf8 (String.ofList (encode bytes))) = .ok bytes := by
  induction bytes generalizing position with
  | nil => rfl
  | cons b bs ih =>
    have hb := b.toNat_lt
    have hhigh := (digit?_digitByte (show b.toNat / 16 < 16 by omega)).2
    have hlow := (digit?_digitByte (show b.toNat % 16 < 16 by omega)).2
    have hsum : 16 * (b.toNat / 16) + b.toNat % 16 = b.toNat := Nat.div_add_mod _ _
    simp [utf8_encode_cons, pairs, hhigh, hlow, ih, hsum]

theorem unprefixed?_prefixed (bytes : List UInt8) :
    unprefixed? (prefixed bytes) = some (String.ofList (encode bytes)) := by
  simp [unprefixed?, prefixed]

theorem decode_encode (bytes : List UInt8) :
    decode (utf8 (String.ofList (encode bytes))) = .ok bytes := by
  simp [decode, length_utf8_encode, pairs_encode]

theorem decodePrefixed_prefixed (bytes : List UInt8) :
    decodePrefixed (prefixed bytes) = .ok bytes := by
  simp [decodePrefixed, unprefixed?_prefixed, length_utf8_encode, decode_encode]

theorem decodeField_prefixed (field : String) (bytes : List UInt8) :
    decodeField field (prefixed bytes) = .ok bytes :=
  mapError_eq_ok_iff.mpr (decodePrefixed_prefixed bytes)

theorem toNat_lt_of_digit? {b : UInt8} {n : Nat} (h : digit? b = some n) : b.toNat < 128 := by
  unfold digit? at h
  split at h
  next => omega
  next =>
    split at h
    next => omega
    next =>
      split at h
      next => omega
      next => simp at h

theorem toLower_of_digit? {c : Char} {b : UInt8} {bs : List UInt8} {n : Nat}
    (h : String.utf8EncodeChar c = b :: bs) (hb : digit? b = some n) :
    bs = [] ∧ n < 16 ∧ c.toLower = digitChar n := by
  have hbound := toNat_lt_of_digit? hb
  unfold String.utf8EncodeChar at h
  dsimp only at h
  split at h
  next hc =>
    have hall : ∀ i : Fin 128, ∀ m ∈ digit? (UInt8.ofNat i), m < 16 ∧
        (Char.ofNat i).toLower = digitChar m := by decide
    obtain ⟨rfl, rfl⟩ := List.cons.inj h
    have hdigit := hall ⟨c.val.toNat, by omega⟩ n hb
    have hchar : Char.ofNat c.val.toNat = c := Char.ofNat_toNat c
    rw [hchar] at hdigit
    exact ⟨rfl, hdigit⟩
  next hc =>
    -- the first of several bytes has its highest bits set
    have hfirst (k : Nat) (hk : 128 ≤ k % 256) (heq : UInt8.ofNat k = b) : False := by
      subst heq
      simp only [UInt8.toNat_ofNat'] at hbound
      omega
    exfalso
    split at h
    next => exact hfirst _ (by omega) (List.cons.inj h).1
    next =>
      split at h
      next => exact hfirst _ (by omega) (List.cons.inj h).1
      next => exact hfirst _ (by omega) (List.cons.inj h).1

theorem exists_cons_of_digit? {cs : List Char} {b : UInt8} {rest : List UInt8} {n : Nat}
    (h : cs.flatMap String.utf8EncodeChar = b :: rest) (hb : digit? b = some n) :
    ∃ c ds, cs = c :: ds ∧ ds.flatMap String.utf8EncodeChar = rest ∧ n < 16 ∧
      c.toLower = digitChar n := by
  cases cs with
  | nil => simp at h
  | cons c ds =>
    obtain ⟨b', bs, hchar⟩ := List.exists_cons_of_ne_nil (String.utf8EncodeChar_ne_nil (c := c))
    rw [List.flatMap_cons, hchar, List.cons_append] at h
    obtain ⟨rfl, htail⟩ := List.cons.inj h
    obtain ⟨rfl, hn, hlower⟩ := toLower_of_digit? hchar hb
    exact ⟨c, ds, rfl, htail, hn, hlower⟩

theorem encode_of_pairs {position : Nat} {digits bytes : List UInt8} {cs : List Char}
    (h : pairs position digits = .ok bytes) (hcs : cs.flatMap String.utf8EncodeChar = digits) :
    encode bytes = cs.map Char.toLower := by
  fun_induction pairs position digits generalizing bytes cs with
  | case1 =>
    cases h
    cases cs with
    | nil => rfl
    | cons c ds => simp [String.utf8EncodeChar_ne_nil] at hcs
  | case2 => simp at h
  | case3 => simp at h
  | case4 => simp at h
  | case5 => simp at h
  | case6 position high low rest m hm n hn bytes' hrest ih =>
    obtain ⟨c, ds, rfl, hds, hm16, hc⟩ := exists_cons_of_digit? hcs hm
    obtain ⟨d, es, rfl, hes, hn16, hd⟩ := exists_cons_of_digit? hds hn
    cases h
    have hbyte : (UInt8.ofNat (16 * m + n)).toNat = 16 * m + n := by
      simp only [UInt8.toNat_ofNat']
      omega
    have hhigh : (16 * m + n) / 16 = m := by omega
    have hlow : (16 * m + n) % 16 = n := by omega
    rw [encode, hbyte, hhigh, hlow, ih hrest hes, List.map_cons, List.map_cons, hc, hd]

theorem toList_of_unprefixed? {s digits : String} (h : unprefixed? s = some digits) :
    s.toList = '0' :: 'x' :: digits.toList := by
  unfold unprefixed? at h
  split at h
  next cs hs =>
    cases h
    rw [hs, String.toList_ofList]
  next => simp at h

theorem pairs_of_decodePrefixed {s : String} {bytes : List UInt8}
    (h : decodePrefixed s = .ok bytes) :
    ∃ digits, unprefixed? s = some digits ∧ pairs 0 (utf8 digits) = .ok bytes := by
  unfold decodePrefixed decode at h
  split at h
  next => simp at h
  next digits hdigits =>
    refine ⟨digits, hdigits, ?_⟩
    split at h
    next => simp at h
    next =>
      split at h
      next => simp at h
      next bytes' hpairs =>
        cases h
        exact hpairs

/-- What was read is written as the same text in lower case. -/
theorem prefixed_of_decodePrefixed {s : String} {bytes : List UInt8}
    (h : decodePrefixed s = .ok bytes) : prefixed bytes = s.toLower := by
  obtain ⟨digits, hdigits, hpairs⟩ := pairs_of_decodePrefixed h
  have hlower : s.toLower = s.map Char.toLower := rfl
  apply String.toList_inj.mp
  rw [prefixed, String.toList_ofList, hlower, String.toList_map,
    toList_of_unprefixed? hdigits, encode_of_pairs hpairs rfl]
  rfl

theorem length_encode (bytes : List UInt8) : (encode bytes).length = 2 * bytes.length := by
  induction bytes with
  | nil => rfl
  | cons b bs ih =>
    simp only [encode, List.length_cons, ih]
    omega

theorem encode_injective {xs ys : List UInt8} (h : encode xs = encode ys) : xs = ys := by
  have hxs := decodePrefixed_prefixed xs
  rw [prefixed, h, ← prefixed, decodePrefixed_prefixed] at hxs
  exact (Except.ok.inj hxs).symm

theorem zero_notMem_encode (bytes : List UInt8) : '\x00' ∉ encode bytes := by
  induction bytes with
  | nil => simp [encode]
  | cons b bs ih =>
    have hb := b.toNat_lt
    have hdigit : ∀ i : Fin 16, '\x00' ≠ digitChar i := by decide
    simp only [encode, List.mem_cons, not_or]
    exact ⟨hdigit ⟨b.toNat / 16, by omega⟩, hdigit ⟨b.toNat % 16, by omega⟩, ih⟩

end KeyChange.Hex

theorem KeyChange.Bytes.toList_hex {n : Nat} (b : Bytes n) :
    b.hex.toList = '0' :: 'x' :: Hex.encode b.toList :=
  String.toList_ofList

namespace KeyChange.Rollup.KeyHash

theorem ofHex_hex (field : String) (hash : KeyHash) : ofHex field hash.hex = .ok hash := by
  have hlist : Bytes.ofList? size hash.toList = some hash := Bytes.ofList?_toList hash
  rw [ofHex, Bytes.hex, Hex.decodeField_prefixed, ok_bind, hlist]

end KeyChange.Rollup.KeyHash
