import KeyChange.Transaction.Request
import KeyChange.Proofs.Outcome
import KeyChange.Proofs.HexText

namespace KeyChange

theorem signatureBytes_prefixed (bytes : List UInt8) :
    signatureBytes (Hex.prefixed bytes) = .ok bytes := by
  simp only [signatureBytes, Hex.unprefixed?_prefixed, Hex.decode_encode, mapError_ok]

namespace Stark.Felt

theorem val_lt_pow (x : Felt) : x.val < 256 ^ (32 : Nat) :=
  Nat.lt_of_lt_of_le x.isLt (by decide)

theorem toNat_toBytes (x : Felt) : (toBytes x).toNat = x.val := by
  rw [toBytes, Bytes.toNat_ofNat, Nat.mod_eq_of_lt (val_lt_pow x)]

theorem ofList?_eq_some_iff {bytes : List UInt8} {x : Felt} :
    ofList? bytes = some x ↔ ofBigEndian bytes = x.val := by
  unfold ofList?
  split
  next h => simp [Fin.ext_iff]
  next h =>
    have : ofBigEndian bytes ≠ x.val := fun heq => h (heq ▸ x.isLt)
    simp [this]

theorem reduce_toBytes (x : Felt) : reduce (toBytes x).toList = x := by
  apply Fin.ext
  have hmod : (reduce (toBytes x).toList).val = (toBytes x).toNat % modulus := rfl
  rw [hmod, toNat_toBytes, Nat.mod_eq_of_lt x.isLt]

/-- A word is read if and only if it is the word of an element. -/
theorem ofList?_word_eq_some_iff {bytes : List UInt8} {x : Felt} (h : bytes.length = 32) :
    ofList? bytes = some x ↔ bytes = (toBytes x).toList := by
  rw [ofList?_eq_some_iff]
  constructor
  · intro hvalue
    rw [← bigEndian_ofBigEndian bytes, hvalue, h]
    rfl
  · rintro rfl
    exact toNat_toBytes x

/-- Comparing the number with the modulus is the same as writing the reduced element again and comparing
the bytes. -/
theorem ofList?_word_eq {bytes : List UInt8} (h : bytes.length = 32) :
    ofList? bytes =
      if (reduce bytes).toBytes.toList = bytes then some (reduce bytes) else none := by
  split
  next hsame => exact (ofList?_word_eq_some_iff h).mpr hsame.symm
  next hother =>
    rw [Option.eq_none_iff_forall_ne_some]
    intro x hx
    obtain rfl := (ofList?_word_eq_some_iff h).mp hx
    exact hother (by rw [reduce_toBytes])

theorem modulus_eq : Stark.modulus = 2 ^ (251 : Nat) + 17 * 2 ^ (192 : Nat) + 1 := by decide

theorem exists_toBytes_iff {bytes : List UInt8} (h : bytes.length = 32) :
    (∃ x, bytes = (toBytes x).toList) ↔ ofBigEndian bytes < Stark.modulus := by
  simp only [← ofList?_word_eq_some_iff h, ofList?_eq_some_iff]
  exact ⟨fun ⟨x, hx⟩ => hx ▸ x.isLt, fun hlt => ⟨⟨_, hlt⟩, rfl⟩⟩

end Stark.Felt

namespace Ethereum

theorem Recovery.exists_toByte_iff {b : UInt8} :
    (∃ v : Recovery, b = v.toByte) ↔ b ∈ ([0, 1, 27, 28] : List UInt8) := by
  constructor
  · rintro ⟨⟨isOdd, hasOffset⟩, rfl⟩
    cases isOdd <;> cases hasOffset <;> decide
  · simp only [List.mem_cons, List.not_mem_nil, or_false]
    rintro (rfl | rfl | rfl | rfl)
    · exact ⟨⟨false, false⟩, rfl⟩
    · exact ⟨⟨true, false⟩, rfl⟩
    · exact ⟨⟨false, true⟩, rfl⟩
    · exact ⟨⟨true, true⟩, rfl⟩

theorem Recovery.ofByte?_eq_some_iff {b : UInt8} {v : Recovery} :
    ofByte? b = some v ↔ b = v.toByte := by
  constructor
  · intro h
    unfold ofByte? at h
    split at h
    next hb => cases h; exact hb
    next =>
      split at h
      next hb => cases h; exact hb
      next =>
        split at h
        next hb => cases h; exact hb
        next =>
          split at h
          next hb => cases h; exact hb
          next => simp at h
  · rintro rfl
    exact ofByte?_toByte v

namespace Signature

theorem length_toList (x : Signature) : x.toList.length = size := by
  simp [toList, Bytes.length_toList, size]

theorem ofList_eq_ok_iff {bytes : List UInt8} {x : Signature} :
    ofList bytes = .ok x ↔ bytes = x.toList := by
  constructor
  · intro h
    unfold ofList at h
    split at h
    next hlen =>
      have hlen : bytes.length = 65 := hlen
      dsimp only at h
      split at h
      next => simp at h
      next v hv =>
        cases h
        have hlast : bytes.drop 64 = [v.toByte] := by
          rw [List.drop_eq_getElem_cons (by omega), Recovery.ofByte?_eq_some_iff.mp hv,
            List.drop_of_length_le (by omega)]
        have hparts : bytes = bytes.take 32 ++ (bytes.drop 32).take 32 ++ bytes.drop 64 := by
          rw [← List.take_add, List.take_append_drop]
        rw [toList, ← hlast]
        exact hparts
    next => simp at h
  · rintro rfl
    have hr := x.r.length_toList
    have hs := x.s.length_toList
    have hlen : x.toList.length = 65 := length_toList x
    have hlast : x.toList[64] = x.v.toByte := by simp [toList, hr, hs]
    have hv : Recovery.ofByte? x.toList[64] = some x.v := by rw [hlast, Recovery.ofByte?_toByte]
    have hfirst : x.toList.take 32 = x.r.toList := by simp [toList, hr]
    have hsecond : (x.toList.drop 32).take 32 = x.s.toList := by simp [toList, hr, hs]
    simp only [ofList, size, hlen, hv, hfirst, hsecond, dite_true]

theorem exists_toList_iff {bytes : List UInt8} :
    (∃ x : Signature, bytes = x.toList) ↔
      bytes.length = 65 ∧ ∃ v ∈ ([0, 1, 27, 28] : List UInt8), bytes.getLast? = some v := by
  constructor
  · rintro ⟨x, rfl⟩
    exact ⟨length_toList x, _, Recovery.exists_toByte_iff.mp ⟨x.v, rfl⟩, by simp [toList]⟩
  · rintro ⟨hlen, b, hb, hlast⟩
    obtain ⟨v, rfl⟩ := Recovery.exists_toByte_iff.mpr hb
    obtain ⟨front, rfl⟩ := List.getLast?_eq_some_iff.mp hlast
    have hfront : front.length = 64 := by simpa using hlen
    exact ⟨⟨⟨front.take 32, by simp [hfront]⟩, ⟨front.drop 32, by simp [hfront]⟩, v⟩,
      by simp [toList]⟩

theorem ofHex_hex (x : Signature) : ofHex x.hex = .ok x := by
  rw [ofHex, hex, signatureBytes_prefixed]
  exact ofList_eq_ok_iff.mpr rfl

end Signature

end Ethereum

namespace Starknet.Signature

open Stark

theorem length_toList (x : Signature) : x.toList.length = size := by
  simp [toList, Bytes.length_toList, size]

theorem words_toList (x : Signature) :
    x.toList.take 32 = (Felt.toBytes x.publicKey).toList ∧
      (x.toList.drop 32).take 32 = (Felt.toBytes x.r).toList ∧
      x.toList.drop 64 = (Felt.toBytes x.s).toList :=
  ⟨by simp [toList, Bytes.length_toList], by simp [toList, Bytes.length_toList],
    List.drop_left' (by simp [Bytes.length_toList])⟩

theorem ofList_eq_ok_iff {bytes : List UInt8} {x : Signature} :
    ofList bytes = .ok x ↔ bytes = x.toList := by
  constructor
  · intro h
    unfold ofList at h
    split at h
    next => simp at h
    next hlen =>
      have hlen : bytes.length = 96 := Decidable.not_not.mp hlen
      split at h
      next key r s hkey hr hs =>
        cases h
        have hkey := (Felt.ofList?_word_eq_some_iff (by simp [hlen])).mp hkey
        have hr := (Felt.ofList?_word_eq_some_iff (by simp [hlen])).mp hr
        have hs := (Felt.ofList?_word_eq_some_iff (by simp [hlen])).mp hs
        rw [toList, ← hkey, ← hr, ← hs, ← List.take_add, List.take_append_drop]
      next => simp at h
  · rintro rfl
    have hlen : x.toList.length = 96 := length_toList x
    have hword (y : Felt) : Felt.ofList? (Felt.toBytes y).toList = some y :=
      (Felt.ofList?_word_eq_some_iff (Bytes.length_toList _)).mpr rfl
    obtain ⟨hkey, hr, hs⟩ := words_toList x
    simp [ofList, size, hlen, hkey, hr, hs, hword]

theorem exists_toList_iff {bytes : List UInt8} :
    (∃ x : Signature, bytes = x.toList) ↔
      bytes.length = 96 ∧ ∀ word ∈ [bytes.take 32, (bytes.drop 32).take 32, bytes.drop 64],
        ofBigEndian word < 2 ^ (251 : Nat) + 17 * 2 ^ (192 : Nat) + 1 := by
  simp only [List.forall_mem_cons, List.not_mem_nil, false_implies, implies_true, and_true,
    ← Felt.modulus_eq]
  constructor
  · rintro ⟨x, rfl⟩
    have hword (y : Felt) : ofBigEndian (Felt.toBytes y).toList < Stark.modulus :=
      (Felt.exists_toBytes_iff (Bytes.length_toList _)).mp ⟨y, rfl⟩
    obtain ⟨hkey, hr, hs⟩ := words_toList x
    rw [hkey, hr, hs]
    exact ⟨length_toList x, hword _, hword _, hword _⟩
  · rintro ⟨hlen, hkey, hr, hs⟩
    obtain ⟨publicKey, hkey⟩ := (Felt.exists_toBytes_iff (by simp [hlen])).mpr hkey
    obtain ⟨r, hr⟩ := (Felt.exists_toBytes_iff (by simp [hlen])).mpr hr
    obtain ⟨s, hs⟩ := (Felt.exists_toBytes_iff (by simp [hlen])).mpr hs
    refine ⟨⟨publicKey, r, s⟩, ?_⟩
    rw [toList, ← hkey, ← hr, ← hs, ← List.take_add, List.take_append_drop]

theorem ofHex_hex (x : Signature) : ofHex x.hex = .ok x := by
  rw [ofHex, hex, signatureBytes_prefixed]
  exact ofList_eq_ok_iff.mpr rfl

end Starknet.Signature

/-- A text is read as the signature whose bytes it spells; their number tells the scheme. -/
theorem Request.parseSignature_eq_ok_iff {s : String} {x : Owner.Signature} :
    parseSignature s = .ok x ↔ Hex.decodePrefixed s = .ok x.toList := by
  simp only [parseSignature, bind_eq_ok_iff, Hex.decodeField, mapError_eq_ok_iff]
  constructor
  · rintro ⟨bytes, hbytes, h⟩
    rw [hbytes]
    split at h
    next =>
      split at h
      next => simp at h
      next y hy =>
        cases h
        exact congrArg Except.ok (Ethereum.Signature.ofList_eq_ok_iff.mp hy)
    next =>
      split at h
      next =>
        split at h
        next => simp at h
        next y hy =>
          cases h
          exact congrArg Except.ok (Starknet.Signature.ofList_eq_ok_iff.mp hy)
      next => simp at h
  · intro h
    refine ⟨x.toList, h, ?_⟩
    cases x with
    | ethereum x =>
      have hlen : x.toList.length = Ethereum.Signature.size := Ethereum.Signature.length_toList x
      have hread := Ethereum.Signature.ofList_eq_ok_iff.mpr (rfl : x.toList = x.toList)
      simp [Owner.Signature.toList, hlen, hread]
    | starknet x =>
      have hlen : x.toList.length = Starknet.Signature.size := Starknet.Signature.length_toList x
      have hread := Starknet.Signature.ofList_eq_ok_iff.mpr (rfl : x.toList = x.toList)
      simp [Owner.Signature.toList, hlen, hread, Starknet.Signature.size, Ethereum.Signature.size]

theorem Request.parseSignature_hex (x : Owner.Signature) : parseSignature x.hex = .ok x :=
  parseSignature_eq_ok_iff.mpr (Hex.decodePrefixed_prefixed x.toList)

end KeyChange
