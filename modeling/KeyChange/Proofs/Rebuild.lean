import KeyChange.Proofs.DecimalText
import KeyChange.Proofs.Fee
import KeyChange.Proofs.HexText
import KeyChange.Proofs.Origin

namespace KeyChange

namespace Transaction

def request (tx : Transaction) (ownerSignature : Option String) : Request where
  chain := tx.chain
  account := tx.account
  subAccount := tx.subAccount
  keyHash := tx.keyHash.hex
  feeToken := tx.feeToken.toUInt32
  fee := toString tx.fee.val
  nonce := tx.nonce
  ownerSignature := ownerSignature
  time := tx.time.toUInt64

/-- The fields that can be read agree. -/
structure SameFields (a b : Transaction) : Prop where
  chain_eq : a.chain = b.chain
  account_eq : a.account = b.account
  subAccount_eq : a.subAccount = b.subAccount
  keyHash_eq : a.keyHash = b.keyHash
  feeToken_eq : a.feeToken = b.feeToken
  fee_eq : a.fee = b.fee
  nonce_eq : a.nonce = b.nonce
  time_eq : a.time = b.time

theorem encode_eq_iff_packedFee_eq {a b : Transaction} (same : a.SameFields b) :
    a.encode = b.encode ↔ a.packedFee = b.packedFee := by
  obtain ⟨h₁, h₂, h₃, h₄, h₅, -, h₇, h₈⟩ := same
  rw [encode_eq_iff]
  simp [h₁, h₂, h₃, h₄, h₅, h₇, h₈]

/-- A valid transaction can be built from its fields. Its fee then has the reduced bytes. -/
theorem Valid.exists_build {tx : Transaction} (valid : tx.Valid) :
    ∃ c, (tx.request none).build = .ok c ∧ tx.SameFields c ∧
      (c.packedFee = tx.packedFee ↔ Fee.IsReduced tx.packedFee) := by
  obtain ⟨packed, hpack, -, hunpack, hiff⟩ := Fee.exists_pack valid.unpack_fee
  let c : Transaction := { tx with packedFee := packed, authorization := .onchain }
  have hfee : Request.parseFee (toString tx.fee.val) = .ok (c.fee, c.packedFee) :=
    Request.parseFee_eq_ok_iff.mpr ⟨Request.decimal?_toString _,
      Fee.unpack_le_maximum valid.unpack_fee, hpack, hunpack⟩
  have hvalid : c.Valid := { valid with unpack_fee := hunpack }
  refine ⟨c, ?_, ⟨rfl, rfl, rfl, rfl, rfl, rfl, rfl, rfl⟩, hiff⟩
  exact Request.build_eq_ok_iff.mpr ⟨hvalid, rfl, rfl, rfl, Rollup.KeyHash.ofHex_hex _ _,
    by simp [request, c], hfee, rfl, by simp [request, c], rfl⟩

theorem reduced_of_build {r : Request} {tx : Transaction} (h : r.build = .ok tx) :
    Fee.IsReduced tx.packedFee := by
  obtain ⟨valid, -, -, -, -, -, hfee, -, -, -⟩ := Request.build_eq_ok_iff.mp h
  obtain ⟨-, -, hpack, -⟩ := Request.parseFee_eq_ok_iff.mp hfee
  obtain ⟨packed, hpacked, reduced, -⟩ := Fee.exists_pack valid.unpack_fee
  rw [hpack] at hpacked
  cases hpacked
  exact reduced

/-- The bytes follow from the fields up to the exponent of the fee, and building again from the
fields leads back to the bytes if the fee in them is reduced. -/
theorem canonical_bytes_iff {a b : Transaction} (ha : a.Obtained) (hb : b.Obtained)
    (same : a.SameFields b) :
    ((a.encode = b.encode ∧ a.hash = b.hash) ↔
      Fee.exponent a.packedFee = Fee.exponent b.packedFee) ∧
    (Fee.IsReduced a.packedFee → Fee.IsReduced b.packedFee →
      a.encode = b.encode ∧ a.hash = b.hash) ∧
    (∀ r : Request, r.build = .ok a → Fee.IsReduced a.packedFee) ∧
    (∀ bytes, decode bytes = .ok a → ∃ c, (a.request none).build = .ok c ∧ a.SameFields c ∧
      (c.encode = bytes ↔ Fee.IsReduced a.packedFee)) := by
  have hbytes : (a.encode = b.encode ∧ a.hash = b.hash) ↔ a.packedFee = b.packedFee := by
    rw [← encode_eq_iff_packedFee_eq same]
    exact ⟨fun h => h.1, fun h => ⟨h, congrArg Sha256.digest h⟩⟩
  have hfeeA := ha.valid.unpack_fee
  have hfeeB : Fee.unpack b.packedFee.toList = some a.fee := by
    rw [same.fee_eq]
    exact hb.valid.unpack_fee
  refine ⟨?_, ?_, fun r h => reduced_of_build h, ?_⟩
  · rw [hbytes]
    exact Fee.eq_iff_exponent_eq hfeeA hfeeB
  · intro reducedA reducedB
    rw [hbytes]
    exact Fee.eq_of_isReduced hfeeA hfeeB reducedA reducedB
  · intro bytes h
    obtain ⟨c, hbuild, sameC, hiff⟩ := ha.valid.exists_build
    refine ⟨c, hbuild, sameC, ?_⟩
    rw [← (decode_eq_ok_iff.mp h).1, eq_comm, encode_eq_iff_packedFee_eq sameC, eq_comm]
    exact hiff

theorem build_of_ten :
    ((exampleTransaction 0x00 0x21 10).request none).build = .ok (exampleTransaction 0x01 0x40 10) := by
  rfl

theorem canonical_bytes_of_ten :
    let a := exampleTransaction 0x00 0x21 10
    let b := exampleTransaction 0x01 0x40 10
    (a.Obtained ∧ b.Obtained ∧ a.SameFields b) ∧
    ((a.encode = b.encode ∧ a.hash = b.hash) ↔
      Fee.exponent a.packedFee = Fee.exponent b.packedFee) ∧
    (Fee.IsReduced a.packedFee → Fee.IsReduced b.packedFee →
      a.encode = b.encode ∧ a.hash = b.hash) ∧
    (∀ r : Request, r.build = .ok a → Fee.IsReduced a.packedFee) ∧
    (∀ bytes, decode bytes = .ok a → ∃ c, (a.request none).build = .ok c ∧ a.SameFields c ∧
      (c.encode = bytes ↔ Fee.IsReduced a.packedFee)) := by
  intro a b
  have ha : decode (exampleBytes 0x00 0x21) = .ok a := rfl
  have hb : (a.request none).build = .ok b := build_of_ten
  have same : a.SameFields b := ⟨rfl, rfl, rfl, rfl, rfl, rfl, rfl, rfl⟩
  exact ⟨⟨.decoded ha, .built hb, same⟩, canonical_bytes_iff (.decoded ha) (.built hb) same⟩

/-- The fields agree and the bytes do not. -/
theorem two_encodings_of_ten :
    let a := exampleTransaction 0x00 0x21 10
    let b := exampleTransaction 0x01 0x40 10
    decode (exampleBytes 0x00 0x21) = .ok a ∧ (a.request none).build = .ok b ∧ a.SameFields b ∧
      a.encode ≠ b.encode ∧ b.encode ≠ exampleBytes 0x00 0x21 :=
  ⟨rfl, build_of_ten, ⟨rfl, rfl, rfl, rfl, rfl, rfl, rfl, rfl⟩, by decide, by decide⟩

end Transaction

end KeyChange
