import KeyChange.Proofs.CarriedAuthorization
import KeyChange.Proofs.SuppliedSignature

namespace KeyChange

def Authorization.supplied : Authorization → Authorization
  | .create2 _ => .onchain
  | a => a

namespace Transaction

variable {tx : Transaction}

def supplyingRequest (tx : Transaction) : Request :=
  tx.request (tx.authorization.signature?.map Owner.Signature.hex)

/-- A transaction that was obtained, or what signing operations made of one. -/
inductive HandedOut : Transaction → Prop
  | obtained {tx : Transaction} (h : tx.Obtained) : HandedOut tx
  | signed {tx : Transaction} {s : Signer} {op : Signer.Operation} {a : Authorization}
    (h : HandedOut tx) (hgives : s.Gives tx op a) : HandedOut (tx.authorizedBy a)

theorem HandedOut.valid (h : tx.HandedOut) : tx.Valid := by
  induction h with
  | obtained h => exact h.valid
  | signed _ _ ih => exact valid_authorizedBy_iff.mpr ih

theorem Valid.exists_build_supplying (valid : tx.Valid) :
    ∃ c, tx.supplyingRequest.build = .ok c ∧ tx.SameFields c ∧
      c.authorization = tx.authorization.supplied := by
  obtain ⟨c, hbuild, same, -⟩ := valid.exists_build
  have honchain := Request.authorization_of_build hbuild rfl
  unfold supplyingRequest
  cases tx.authorization with
  | onchain => exact ⟨c, hbuild, same, honchain⟩
  | create2 data => exact ⟨c, hbuild, same, honchain⟩
  | signed x =>
    obtain ⟨h₁, h₂, h₃, h₄, h₅, h₆, h₇, h₈⟩ := same
    exact ⟨c.authorizedBy (.signed x), Request.build_supplied hbuild x,
      ⟨h₁, h₂, h₃, h₄, h₅, h₆, h₇, h₈⟩, rfl⟩

/-- Whatever is handed out keeps the rules of the builder, and the builder makes it again from its own
fields. -/
theorem handed_out_can_be_built (h : tx.HandedOut) :
    tx.chain.toNat ≤ 31 ∧
    tx.account.toNat ≤ 2 ^ (24 : Nat) - 1 ∧ tx.account.toNat ≠ 1 ∧
    tx.subAccount.toNat ≤ 31 ∧
    ¬(2 ≤ tx.feeToken.toNat ∧ tx.feeToken.toNat ≤ 16) ∧
    tx.nonce.toNat < 2 ^ (32 : Nat) - 1 ∧
    tx.fee.val ≤ Fee.maximum ∧ Fee.unpack tx.packedFee.toList = some tx.fee ∧
    ∃ c, tx.supplyingRequest.build = .ok c ∧ tx.SameFields c ∧
      c.authorization = tx.authorization.supplied :=
  have valid := h.valid
  ⟨valid.chain_le, valid.account_le, valid.account_ne, valid.subAccount_le, valid.token_free,
    valid.nonce_lt, Fee.unpack_le_maximum valid.unpack_fee, valid.unpack_fee,
    valid.exists_build_supplying⟩

theorem bound_after_decoding_can_be_built :
    let tx := ((exampleTransaction 0x00 0x21 10).authorizedBy (.signed exampleSignature)).authorizedBy
      (.create2 Signer.exampleCreate2)
    tx.HandedOut ∧
    tx.chain.toNat ≤ 31 ∧
    tx.account.toNat ≤ 2 ^ (24 : Nat) - 1 ∧ tx.account.toNat ≠ 1 ∧
    tx.subAccount.toNat ≤ 31 ∧
    ¬(2 ≤ tx.feeToken.toNat ∧ tx.feeToken.toNat ≤ 16) ∧
    tx.nonce.toNat < 2 ^ (32 : Nat) - 1 ∧
    tx.fee.val ≤ Fee.maximum ∧ Fee.unpack tx.packedFee.toList = some tx.fee ∧
    ∃ c, tx.supplyingRequest.build = .ok c ∧ tx.SameFields c ∧
      c.authorization = tx.authorization.supplied := by
  intro tx
  have hdecode : (exampleBundle 0x00 0x21).decode =
      .ok ((exampleTransaction 0x00 0x21 10).authorizedBy (.signed exampleSignature)) := rfl
  have hgives (signed : Transaction) : Signer.exampleSigner.Gives signed
      (.create2 Signer.exampleCreate2 (Signer.exampleCreate2.address signed.keyHash.toList))
      (.create2 Signer.exampleCreate2) := .create2 rfl
  have h : tx.HandedOut := .signed (.obtained (.bundled hdecode)) (hgives _)
  exact ⟨h, handed_out_can_be_built h⟩

end Transaction

end KeyChange
