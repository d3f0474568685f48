import KeyChange.Proofs.HexDigits

namespace KeyChange.Hex

variable {s : String} {text rest : List UInt8} {x b : UInt8} {k n : Nat} {fault : Fault}
  {refusal : PrefixedFault}

theorem isSome_digit?_iff (b : UInt8) : (digit? b).isSome ↔ IsDigit (Char.ofNat b.toNat) := by
  have hall : ∀ i : Fin 256, (digit? (UInt8.ofNat i)).isSome ↔ IsDigit (Char.ofNat i) := by
    decide +kernel
  have h := hall ⟨b.toNat, b.toNat_lt⟩
  rwa [UInt8.ofNat_toNat] at h

/-- The byte at the position is no digit, and all bytes in front of it are. -/
structure FirstBad (text : List UInt8) (b : UInt8) (k : Nat) : Prop where
  found : text[k]? = some b
  bad : ¬IsDigit (Char.ofNat b.toNat)
  digits : ∀ x ∈ text.take k, IsDigit (Char.ofNat x.toNat)

theorem not_firstBad_nil : ¬FirstBad [] b k := by
  intro h
  simpa using h.found

theorem firstBad_cons_of_bad (hx : digit? x = none) :
    FirstBad (x :: rest) b k ↔ x = b ∧ k = 0 := by
  have hbad : ¬IsDigit (Char.ofNat x.toNat) := by
    rw [← isSome_digit?_iff, hx]
    simp
  constructor
  · rintro ⟨found, -, digits⟩
    cases k with
    | zero => exact ⟨by simpa using found, rfl⟩
    | succ k => exact absurd (digits x (by simp)) hbad
  · rintro ⟨rfl, rfl⟩
    exact ⟨rfl, hbad, by simp⟩

theorem firstBad_cons_of_digit (hx : digit? x = some n) :
    FirstBad (x :: rest) b k ↔ ∃ i, FirstBad rest b i ∧ k = i + 1 := by
  have hdigit : IsDigit (Char.ofNat x.toNat) := by
    rw [← isSome_digit?_iff, hx]
    rfl
  constructor
  · rintro ⟨found, bad, digits⟩
    cases k with
    | zero =>
      obtain rfl : x = b := by simpa using found
      exact absurd hdigit bad
    | succ k =>
      rw [List.take_succ_cons, List.forall_mem_cons] at digits
      exact ⟨k, ⟨by simpa using found, bad, digits.2⟩, rfl⟩
  · rintro ⟨i, ⟨found, bad, digits⟩, rfl⟩
    refine ⟨by simpa using found, bad, ?_⟩
    rw [List.take_succ_cons, List.forall_mem_cons]
    exact ⟨hdigit, digits⟩

/-- The first byte that is no digit is the fault, if there is an even number of bytes. -/
theorem pairs_eq_error_iff {position : Nat} (heven : text.length % 2 = 0) :
    pairs position text = .error fault ↔
      ∃ b k, FirstBad text b k ∧ fault = .badDigit b (position + k) := by
  have hshift (start i : Nat) : start + (i + 1 + 1) = start + 2 + i := by omega
  fun_induction pairs position text with
  | case1 => simp [not_firstBad_nil]
  | case2 => simp at heven
  | case3 position high low rest hhigh =>
    simp only [firstBad_cons_of_bad hhigh]
    constructor
    · rintro ⟨⟩
      exact ⟨high, 0, ⟨rfl, rfl⟩, rfl⟩
    · rintro ⟨_, _, ⟨rfl, rfl⟩, rfl⟩
      rfl
  | case4 position high low rest m hhigh hlow =>
    simp only [firstBad_cons_of_digit hhigh, firstBad_cons_of_bad hlow]
    constructor
    · rintro ⟨⟩
      exact ⟨low, 1, ⟨0, ⟨rfl, rfl⟩, rfl⟩, rfl⟩
    · rintro ⟨_, _, ⟨_, ⟨rfl, rfl⟩, rfl⟩, rfl⟩
      rfl
  | case5 position high low rest m hhigh n hlow e hrest ih =>
    have heven' : rest.length % 2 = 0 := by
      simp only [List.length_cons] at heven
      omega
    simp only [firstBad_cons_of_digit hhigh, firstBad_cons_of_digit hlow]
    constructor
    · intro hfault
      obtain ⟨b, i, h, rfl⟩ := (ih heven').mp (hrest.trans hfault)
      exact ⟨b, _, ⟨_, ⟨i, h, rfl⟩, rfl⟩, congrArg _ (hshift position i).symm⟩
    · rintro ⟨b, _, ⟨_, ⟨i, h, rfl⟩, rfl⟩, rfl⟩
      exact hrest.symm.trans ((ih heven').mpr ⟨b, i, h, congrArg _ (hshift position i)⟩)
  | case6 position high low rest m hhigh n hlow bytes hrest ih =>
    refine iff_of_false (by simp) ?_
    simp only [firstBad_cons_of_digit hhigh, firstBad_cons_of_digit hlow]
    rintro ⟨b, _, ⟨_, ⟨i, h, rfl⟩, rfl⟩, rfl⟩
    have heven' : rest.length % 2 = 0 := by
      simp only [List.length_cons] at heven
      omega
    have herror := (ih heven').mpr ⟨b, i, h, congrArg _ (hshift position i)⟩
    cases hrest.symm.trans herror

theorem decode_eq_error_iff (heven : text.length % 2 = 0) :
    decode text = .error fault ↔ ∃ b k, FirstBad text b k ∧ fault = .badDigit b k := by
  have hpairs : pairs 0 text = .error fault ↔
      ∃ b k, FirstBad text b k ∧ fault = .badDigit b (0 + k) :=
    pairs_eq_error_iff heven
  rw [decode, if_neg (by omega), hpairs]
  simp only [Nat.zero_add]

inductive Refused (s : String) : PrefixedFault → Prop
  | noPrefix (h : ∀ digits, s.toList ≠ '0' :: 'x' :: digits) : Refused s .noPrefix
  | oddDigits {digits : String} (hs : s.toList = '0' :: 'x' :: digits.toList)
    (hodd : (utf8 digits).length % 2 = 1) : Refused s .oddDigits
  | badDigit {digits : String} {b : UInt8} {k : Nat} (hs : s.toList = '0' :: 'x' :: digits.toList)
    (heven : (utf8 digits).length % 2 = 0) (h : FirstBad (utf8 digits) b k) :
    Refused s (.digits (.badDigit b k))

theorem refused_iff_of_unprefixed (hs : unprefixed? s = none) :
    Refused s refusal ↔ .noPrefix = refusal := by
  have hother (digits : String) : s.toList ≠ '0' :: 'x' :: digits.toList := by
    intro h
    cases hs.symm.trans (unprefixed?_eq_some_iff.mpr h)
  constructor
  · rintro (_ | ⟨h, -⟩ | ⟨h, -, -⟩)
    · rfl
    · exact absurd h (hother _)
    · exact absurd h (hother _)
  · rintro rfl
    refine .noPrefix fun digits => ?_
    have h := hother (.ofList digits)
    rwa [String.toList_ofList] at h

theorem refused_iff_of_digits {digits : String} (hs : s.toList = '0' :: 'x' :: digits.toList) :
    Refused s refusal ↔ (utf8 digits).length % 2 = 1 ∧ .oddDigits = refusal ∨
      (utf8 digits).length % 2 = 0 ∧
        ∃ b k, FirstBad (utf8 digits) b k ∧ .digits (.badDigit b k) = refusal := by
  have hsame {other : String} (h : s.toList = '0' :: 'x' :: other.toList) : other = digits := by
    rw [hs, List.cons.injEq, List.cons.injEq, String.toList_inj] at h
    exact h.2.2.symm
  constructor
  · rintro (h | ⟨h, hodd⟩ | ⟨h, heven, hbad⟩)
    · exact absurd hs (h _)
    · obtain rfl := hsame h
      exact Or.inl ⟨hodd, rfl⟩
    · obtain rfl := hsame h
      exact Or.inr ⟨heven, _, _, hbad, rfl⟩
  · rintro (⟨hodd, rfl⟩ | ⟨heven, b, k, hbad, rfl⟩)
    · exact .oddDigits hs hodd
    · exact .badDigit hs heven hbad

/-- A text is refused for the first thing that is wrong with it: the prefix, the number of digits, then the
digits. -/
theorem decodePrefixed_eq_error_iff : decodePrefixed s = .error refusal ↔ Refused s refusal := by
  unfold decodePrefixed
  split
  next hnone => rw [refused_iff_of_unprefixed hnone, Except.error.injEq]
  next digits hdigits =>
    rw [refused_iff_of_digits (unprefixed?_eq_some_iff.mp hdigits)]
    split
    next hodd =>
      have hodd : (utf8 digits).length % 2 = 1 := by omega
      simp [hodd]
    next heven =>
      have heven : (utf8 digits).length % 2 = 0 := by omega
      split
      next fault hfault =>
        obtain ⟨b, k, hbad, rfl⟩ := (decode_eq_error_iff heven).mp hfault
        constructor
        · rintro ⟨⟩
          exact Or.inr ⟨heven, b, k, hbad, rfl⟩
        · rintro (⟨hodd, -⟩ | ⟨-, b', k', hbad', rfl⟩)
          · omega
          · cases hfault.symm.trans ((decode_eq_error_iff heven).mpr ⟨b', k', hbad', rfl⟩)
            rfl
      next bytes hbytes =>
        refine iff_of_false (by simp) ?_
        rintro (⟨hodd, -⟩ | ⟨-, b, k, hbad, -⟩)
        · omega
        · cases hbytes.symm.trans ((decode_eq_error_iff heven).mpr ⟨b, k, hbad, rfl⟩)

theorem decodePrefixed_eq_ok_iff_digits {bytes : List UInt8} : decodePrefixed s = .ok bytes ↔
    (∃ count, HasDigits s (2 * count)) ∧ prefixed bytes = s.toLower := by
  constructor
  · intro h
    have hspells := decodePrefixed_eq_ok_iff.mp h
    exact ⟨⟨_, exists_spells_iff.mp ⟨bytes, hspells, rfl⟩⟩, prefixed_of_decodePrefixed h⟩
  · rintro ⟨⟨count, hdigits⟩, hlower⟩
    obtain ⟨bytes', hspells, -⟩ := exists_spells_iff.mpr hdigits
    have h := decodePrefixed_eq_ok_iff.mpr hspells
    have hsame : prefixed bytes = prefixed bytes' := hlower.trans (prefixed_of_decodePrefixed h).symm
    have hread := decodePrefixed_prefixed bytes
    rw [hsame, decodePrefixed_prefixed] at hread
    rw [h, hread]

theorem exists_decodePrefixed_iff :
    (∃ bytes, decodePrefixed s = .ok bytes) ↔ ∃ count, HasDigits s (2 * count) := by
  simp only [decodePrefixed_eq_ok_iff]
  constructor
  · rintro ⟨bytes, hspells⟩
    exact ⟨_, exists_spells_iff.mp ⟨bytes, hspells, rfl⟩⟩
  · rintro ⟨count, hdigits⟩
    obtain ⟨bytes, hspells, -⟩ := exists_spells_iff.mpr hdigits
    exact ⟨bytes, hspells⟩

theorem decodeField_eq_error_iff {field : String} {e : FieldError} :
    decodeField field s = .error e ↔ ∃ refusal, Refused s refusal ∧ e = ⟨field, .hex refusal⟩ := by
  simp only [decodeField, mapError_eq_error_iff, decodePrefixed_eq_error_iff]

/-- A field's text is read if and only if it is `0x` and an even number of digits of either case, and the
bytes are written as the text with its digits in lower case. Every other text is refused for the field, for
the first thing that is wrong with it. All bytes are read back from their text. -/
theorem decodeField_reads_digits (field : String) :
    (∀ s bytes, decodeField field s = .ok bytes ↔
      (∃ count, HasDigits s (2 * count)) ∧ prefixed bytes = s.toLower) ∧
    (∀ s, (∃ e, decodeField field s = .error e) ↔ ¬∃ count, HasDigits s (2 * count)) ∧
    (∀ s e, decodeField field s = .error e ↔
      ∃ refusal, Refused s refusal ∧ e = ⟨field, .hex refusal⟩) ∧
    ∀ bytes, decodeField field (prefixed bytes) = .ok bytes := by
  have haccepted (s : String) (bytes : List UInt8) :
      decodeField field s = .ok bytes ↔ decodePrefixed s = .ok bytes :=
    mapError_eq_ok_iff
  refine ⟨fun s bytes => ?_, fun s => ?_, fun s e => decodeField_eq_error_iff,
    decodeField_prefixed field⟩
  · rw [haccepted, decodePrefixed_eq_ok_iff_digits]
  · rw [exists_error_iff, ← exists_decodePrefixed_iff]
    simp only [haccepted]

-- The last letter of these texts is two bytes, of which neither is a digit.
example : decodeField "newPkHash" "0x1é" = .error ⟨"newPkHash", .hex .oddDigits⟩ ∧
    decodeField "newPkHash" "0x12é" = .error ⟨"newPkHash", .hex (.digits (.badDigit 0xc3 2))⟩ :=
  ⟨rfl, rfl⟩

end KeyChange.Hex
