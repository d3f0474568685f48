import KeyChange.Proofs.Outcome
import KeyChange.Proofs.Range

namespace KeyChange

theorem bigEndian_mod (width n : Nat) : bigEndian width (n % 256 ^ width) = bigEndian width n := by
  have h := bigEndian_ofBigEndian (bigEndian width n)
  rwa [length_bigEndian, ofBigEndian_bigEndian] at h

theorem bigEndian_uint8 (n : Nat) : bigEndian 1 (UInt8.ofNat n).toNat = bigEndian 1 n := by
  simpa using bigEndian_mod 1 n

theorem bigEndian_uint16 (n : Nat) : bigEndian 2 (UInt16.ofNat n).toNat = bigEndian 2 n := by
  simpa using bigEndian_mod 2 n

theorem bigEndian_uint32 (n : Nat) : bigEndian 4 (UInt32.ofNat n).toNat = bigEndian 4 n := by
  simpa using bigEndian_mod 4 n

theorem Bytes.bigEndian_toNat {n : Nat} (b : Bytes n) : bigEndian n b.toNat = b.toList :=
  congrArg Bytes.toList (Bytes.ofNat_toNat b)

theorem bigEndian_inj {width m n : Nat} (hm : m < 256 ^ width) (hn : n < 256 ^ width) :
    bigEndian width m = bigEndian width n ↔ m = n := by
  constructor
  · intro h
    have hv := congrArg ofBigEndian h
    rwa [ofBigEndian_bigEndian, ofBigEndian_bigEndian, Nat.mod_eq_of_lt hm,
      Nat.mod_eq_of_lt hn] at hv
  · rintro rfl
    rfl

namespace Transaction

theorem slice_append_slice (bytes : List UInt8) (offset m n : Nat) :
    slice bytes offset m ++ slice bytes (offset + m) n = slice bytes offset (m + n) := by
  simp [slice, List.take_add, List.drop_drop]

theorem Fields.encode_values (f : Fields) (fee : Amount) :
    (f.values fee).encode = typeByte :: f.chain.toList ++ f.account.toList ++ f.subAccount.toList
      ++ f.keyHash.toList ++ f.feeToken.toList ++ f.packedFee.toList ++ f.nonce.toList
      ++ f.time.toList := by
  simp only [encode, values, bigEndian_uint8, bigEndian_uint16, bigEndian_uint32, Bytes.bigEndian_toNat]

/-- The places lie side by side, so the bytes are those of the fields at them. -/
theorem encode_values_fieldsOf {bytes : List UInt8} {h : bytes.length = size} {fee : Amount}
    (htype : bytes.headD 0 = typeByte) : ((fieldsOf bytes h).values fee).encode = bytes := by
  have hlen : bytes.length = 39 := h
  have hfirst : [typeByte] = slice bytes 0 1 := by
    cases bytes with
    | nil => simp at hlen
    | cons b bs => simpa [slice] using htype.symm
  have hall : slice bytes 0 39 = bytes := by simp [slice, ← hlen]
  rw [Fields.encode_values, ← List.singleton_append, hfirst]
  simp only [fieldsOf, part, slice_append_slice bytes 0 1 1, slice_append_slice bytes 0 2 4,
    slice_append_slice bytes 0 6 1, slice_append_slice bytes 0 7 20,
    slice_append_slice bytes 0 27 2, slice_append_slice bytes 0 29 2,
    slice_append_slice bytes 0 31 4, slice_append_slice bytes 0 35 4]
  exact hall

@[simp] theorem length_encode (tx : Transaction) : tx.encode.length = size := by
  simp [encode, tx.keyHash.length_toList, tx.packedFee.length_toList, size]

/-- The bytes determine all that is written, which is everything but the amount that the two bytes
of the fee stand for, and the authorization. -/
theorem encode_eq_iff {a b : Transaction} :
    a.encode = b.encode ↔ a.chain = b.chain ∧ a.account = b.account ∧
      a.subAccount = b.subAccount ∧ a.keyHash = b.keyHash ∧ a.feeToken = b.feeToken ∧
      a.packedFee = b.packedFee ∧ a.nonce = b.nonce ∧ a.time = b.time := by
  constructor
  · intro h
    unfold encode at h
    obtain ⟨h, htime⟩ := List.append_inj' h (by simp)
    obtain ⟨h, hnonce⟩ := List.append_inj' h (by simp)
    obtain ⟨h, hfee⟩ := List.append_inj' h (by simp [Bytes.length_toList])
    obtain ⟨h, htoken⟩ := List.append_inj' h (by simp)
    obtain ⟨h, hkey⟩ := List.append_inj' h (by simp [Bytes.length_toList])
    obtain ⟨h, hsub⟩ := List.append_inj' h (by simp)
    obtain ⟨h, haccount⟩ := List.append_inj' h (by simp)
    obtain ⟨-, hchain⟩ := List.cons.inj h
    have h8 (x y : UInt8) (h : bigEndian 1 x.toNat = bigEndian 1 y.toNat) : x = y :=
      UInt8.toNat_inj.mp ((bigEndian_inj x.toNat_lt y.toNat_lt).mp h)
    have h16 (x y : UInt16) (h : bigEndian 2 x.toNat = bigEndian 2 y.toNat) : x = y :=
      UInt16.toNat_inj.mp ((bigEndian_inj x.toNat_lt y.toNat_lt).mp h)
    have h32 (x y : UInt32) (h : bigEndian 4 x.toNat = bigEndian 4 y.toNat) : x = y :=
      UInt32.toNat_inj.mp ((bigEndian_inj x.toNat_lt y.toNat_lt).mp h)
    exact ⟨h8 _ _ hchain, h32 _ _ haccount, h8 _ _ hsub, Bytes.ext hkey, h16 _ _ htoken,
      Bytes.ext hfee, h32 _ _ hnonce, h32 _ _ htime⟩
  · rintro ⟨h₁, h₂, h₃, h₄, h₅, h₆, h₇, h₈⟩
    rw [encode, encode, h₁, h₂, h₃, h₄, h₅, h₆, h₇, h₈]

theorem eq_of_encode_eq {a b : Transaction} (h : a.encode = b.encode) (hfee : a.fee = b.fee)
    (hauthorization : a.authorization = b.authorization) : a = b := by
  obtain ⟨h₁, h₂, h₃, h₄, h₅, h₆, h₇, h₈⟩ := encode_eq_iff.mp h
  cases a
  cases b
  simp_all

/-- The checks of the decoder are those of a valid transaction. -/
theorem Fields.decode_eq_ok_iff {f : Fields} {tx : Transaction} :
    f.decode = .ok tx ↔ tx = f.values tx.fee ∧ tx.Valid := by
  unfold Fields.decode
  simp only [check_bind_eq_ok_iff, bind_eq_ok_iff (α := TokenId), mapError_eq_ok_iff,
    checkChain_eq_ok_iff, checkAccount_eq_ok_iff, checkSubAccount_eq_ok_iff, checkToken_eq_ok_iff,
    checkNonce_eq_ok_iff]
  constructor
  · rintro ⟨hchain, ⟨haccount, hne⟩, hsub, token, ⟨htoken, hfree⟩, hnonce, hfee⟩
    have heq : token = UInt16.ofNat f.feeToken.toNat :=
      UInt16.toNat_inj.mp (by simpa using htoken.symm)
    subst heq
    split at hfee
    next => simp at hfee
    next fee hunpack =>
      cases hfee
      exact ⟨rfl, hchain, haccount, hne, hsub, hfree, hnonce, hunpack⟩
  · rintro ⟨htx, valid⟩
    rw [htx] at valid
    refine ⟨valid.chain_le, ⟨valid.account_le, valid.account_ne⟩, valid.subAccount_le,
      UInt16.ofNat f.feeToken.toNat, ⟨by simp, valid.token_free⟩, valid.nonce_lt, ?_⟩
    have hunpack : Fee.unpack f.packedFee.toList = some tx.fee := valid.unpack_fee
    rw [hunpack]
    exact congrArg Except.ok htx.symm

/-- Bytes decode to a transaction exactly if it is valid, has no authorization but the chain's, and is
written as those bytes. -/
theorem decode_eq_ok_iff {bytes : List UInt8} {tx : Transaction} :
    decode bytes = .ok tx ↔ tx.encode = bytes ∧ tx.authorization = .onchain ∧ tx.Valid := by
  constructor
  · intro h
    by_cases hlen : bytes.length = size
    · rw [decode_of_length_eq hlen] at h
      split at h
      next htype =>
        obtain ⟨htx, valid⟩ := Fields.decode_eq_ok_iff.mp h
        refine ⟨?_, ?_, valid⟩
        · rw [htx]
          exact encode_values_fieldsOf htype
        · rw [htx]
          rfl
      next => simp at h
    · simp [decode_of_length_ne hlen] at h
  · rintro ⟨rfl, honchain, valid⟩
    have htype : tx.encode.headD 0 = typeByte := rfl
    have htx : tx = (fieldsOf tx.encode (length_encode tx)).values tx.fee :=
      eq_of_encode_eq (encode_values_fieldsOf htype).symm rfl honchain
    rw [decode_of_length_eq (length_encode tx), if_pos htype]
    exact Fields.decode_eq_ok_iff.mpr ⟨htx, valid⟩

@[simp] theorem encode_authorizedBy (tx : Transaction) (a : Authorization) :
    (tx.authorizedBy a).encode = tx.encode := rfl

theorem decode_encode {tx : Transaction} (valid : tx.Valid) :
    decode tx.encode = .ok (tx.authorizedBy .onchain) :=
  decode_eq_ok_iff.mpr ⟨rfl, rfl, valid_authorizedBy_iff.mpr valid⟩

theorem encode_eq_encode_iff {a b : Transaction} (ha : a.Valid) (hb : b.Valid) :
    a.encode = b.encode ↔ a.authorizedBy .onchain = b.authorizedBy .onchain := by
  constructor
  · intro h
    have hdecode := decode_encode ha
    rw [h, decode_encode hb] at hdecode
    exact (Except.ok.inj hdecode).symm
  · intro h
    simpa using congrArg encode h

end Transaction

end KeyChange
