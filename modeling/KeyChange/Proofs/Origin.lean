import KeyChange.Transaction.Request
import KeyChange.Proofs.BundledTransaction

namespace KeyChange

namespace Request

theorem parseFee_eq_ok_iff {s : String} {fee : Amount} {packed : Bytes 2} :
    parseFee s = .ok (fee, packed) ↔ decimal? s = some fee.val ∧ fee.val ≤ Fee.maximum ∧
      Fee.pack fee = .ok packed ∧ Fee.unpack packed.toList = some fee := by
  unfold parseFee
  constructor
  · intro h
    split at h
    next => simp at h
    next n hs =>
      split at h
      next hn =>
        dsimp only at h
        split at h
        next => simp at h
        next hle =>
          split at h
          next => simp at h
          next w hpack =>
            split at h
            next hunpack =>
              cases h
              exact ⟨hs, by simpa using hle, hpack, hunpack⟩
            next => simp at h
      next => simp at h
  · rintro ⟨hs, hle, hpack, hunpack⟩
    rw [hs]
    simp [fee.isLt, Nat.not_lt.mpr hle, hpack, hunpack]

theorem parseTime_eq_ok_iff {t : UInt64} {time : Timestamp} :
    parseTime t = .ok time ↔ t.toNat = time.toNat := by
  have := time.toNat_lt
  unfold parseTime
  split
  next h =>
    simp only [Except.ok.injEq, ← UInt32.toNat_inj, UInt64.toNat_toUInt32]
    simp only [UInt32.size] at h
    omega
  next h =>
    simp only [UInt32.size] at h
    simp
    omega

theorem build_eq_ok_iff {r : Request} {tx : Transaction} :
    r.build = .ok tx ↔ tx.Valid ∧ tx.chain = r.chain ∧ tx.account = r.account ∧
      tx.subAccount = r.subAccount ∧ Rollup.KeyHash.ofHex "newPkHash" r.keyHash = .ok tx.keyHash ∧
      r.feeToken.toNat = tx.feeToken.toNat ∧ parseFee r.fee = .ok (tx.fee, tx.packedFee) ∧
      tx.nonce = r.nonce ∧ r.time.toNat = tx.time.toNat ∧
      parseAuthorization r.ownerSignature = .ok tx.authorization := by
  unfold build
  simp only [check_bind_eq_ok_iff, bind_eq_ok_iff (α := Rollup.KeyHash),
    bind_eq_ok_iff (α := TokenId), bind_eq_ok_iff (α := Amount × Bytes 2),
    bind_eq_ok_iff (α := Timestamp), bind_eq_ok_iff (α := Authorization),
    Transaction.checkChain_eq_ok_iff, Transaction.checkAccount_eq_ok_iff,
    Transaction.checkSubAccount_eq_ok_iff, Transaction.checkToken_eq_ok_iff,
    Transaction.checkNonce_eq_ok_iff, parseTime_eq_ok_iff]
  constructor
  · rintro ⟨hchain, ⟨haccount, hne⟩, hsub, keyHash, hkey, token, ⟨htoken, hfree⟩, ⟨fee, packed⟩,
      hfee, hnonce, time, htime, authorization, hauth, htx⟩
    cases htx
    exact ⟨⟨hchain, haccount, hne, hsub, hfree, hnonce, (parseFee_eq_ok_iff.mp hfee).2.2.2⟩,
      rfl, rfl, rfl, hkey, htoken, hfee, rfl, htime, hauth⟩
  · rintro ⟨valid, hchain, haccount, hsub, hkey, htoken, hfee, hnonce, htime, hauth⟩
    rw [← hchain, ← haccount, ← hsub, ← hnonce]
    exact ⟨valid.chain_le, ⟨valid.account_le, valid.account_ne⟩, valid.subAccount_le, tx.keyHash,
      hkey, tx.feeToken, ⟨htoken, valid.token_free⟩, (tx.fee, tx.packedFee), hfee, valid.nonce_lt,
      tx.time, htime, tx.authorization, hauth, rfl⟩

end Request

namespace Transaction

/-- Transactions are built from requests, decoded from bytes, or decoded from bundles. -/
inductive Obtained : Transaction → Prop
  | built {r : Request} {tx : Transaction} (h : r.build = .ok tx) : Obtained tx
  | decoded {bytes : List UInt8} {tx : Transaction} (h : decode bytes = .ok tx) : Obtained tx
  | bundled {b : Bundle} {tx : Transaction} (h : b.decode = .ok tx) : Obtained tx

theorem Obtained.valid {tx : Transaction} (h : tx.Obtained) : tx.Valid := by
  cases h with
  | built h => exact (Request.build_eq_ok_iff.mp h).1
  | decoded h => exact (decode_eq_ok_iff.mp h).2.2
  | bundled h => exact (Bundle.decode_eq_ok_iff.mp h).1

/-- A bundle can show any authorization beside the bytes of a valid transaction. -/
theorem Valid.obtained {tx : Transaction} (valid : tx.Valid) : tx.Obtained := by
  let b : Bundle := ⟨tx.encode, ⟨Bytes.zero 32, Bytes.zero 64⟩, tx.authorization.signature?,
    tx.authorization.create2?⟩
  have h : b.decode = .ok tx := Bundle.decode_eq_ok_iff.mpr ⟨valid, rfl, rfl, rfl⟩
  exact .bundled h

/-- Writing and reading are inverse to each other, up to the authorization, which is not written. -/
theorem encode_decode_inverse {a b : Transaction} (ha : a.Obtained) (hb : b.Obtained) :
    a.encode.length = 39 ∧ decode a.encode = .ok (a.authorizedBy .onchain) ∧
    (∀ bytes, decode bytes = .ok a → a.encode = bytes) ∧
    (a.encode = b.encode ↔ a.authorizedBy .onchain = b.authorizedBy .onchain) :=
  ⟨length_encode a, decode_encode ha.valid, fun _ h => (decode_eq_ok_iff.mp h).1,
    encode_eq_encode_iff ha.valid hb.valid⟩

def exampleBytes (high low : UInt8) : List UInt8 :=
  [0x06, 0x01, 0, 0, 0, 2, 4, 0xd8, 0xd5, 0xfb, 0x6a, 0x6c, 0xae, 0xf0, 0x6a, 0xa3, 0xdc, 0x2a, 0xbd,
    0xcd, 0xc2, 0x40, 0x98, 0x7e, 0x53, 0x30, 0xfe, 0, 1, high, low, 0, 0, 0, 100, 0, 0, 0, 100]

def exampleTransaction (high low : UInt8) (fee : Amount) : Transaction where
  chain := 1
  account := 2
  subAccount := 4
  keyHash := ⟨slice (exampleBytes high low) 7 20, rfl⟩
  feeToken := 1
  fee := fee
  packedFee := ⟨[high, low], rfl⟩
  nonce := 100
  authorization := .onchain
  time := 100

def exampleSignature : Owner.Signature := .ethereum ⟨Bytes.zero 32, Bytes.zero 32, ⟨false, true⟩⟩

def exampleBundle (high low : UInt8) : Bundle :=
  ⟨exampleBytes high low, ⟨Bytes.zero 32, Bytes.zero 64⟩, some exampleSignature, none⟩

theorem inverse_of_decoded_and_bundled :
    let a := exampleTransaction 0x0c 0x80 100
    let b := (exampleTransaction 0x00 0x21 10).authorizedBy (.signed exampleSignature)
    (a.Obtained ∧ b.Obtained) ∧ a.encode.length = 39 ∧
      decode a.encode = .ok (a.authorizedBy .onchain) ∧
      (∀ bytes, decode bytes = .ok a → a.encode = bytes) ∧
      (a.encode = b.encode ↔ a.authorizedBy .onchain = b.authorizedBy .onchain) := by
  intro a b
  have ha : decode (exampleBytes 0x0c 0x80) = .ok a := rfl
  have hb : (exampleBundle 0x00 0x21).decode = .ok b := rfl
  exact ⟨⟨.decoded ha, .bundled hb⟩, encode_decode_inverse (.decoded ha) (.bundled hb)⟩

end Transaction

end KeyChange
