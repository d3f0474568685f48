import KeyChange.Proofs.NewSigner
import KeyChange.Proofs.Signing
import KeyChange.Proofs.Rebuild

namespace KeyChange

namespace Request

variable {r : Request} {tx : Transaction}

theorem authorization_of_build (h : r.build = .ok tx) (hr : r.ownerSignature = none) :
    tx.authorization = .onchain := by
  obtain ⟨-, -, -, -, -, -, -, -, -, hauth⟩ := build_eq_ok_iff.mp h
  rw [hr] at hauth
  exact (Except.ok.inj hauth).symm

theorem build_supplied (h : r.build = .ok tx) (x : Owner.Signature) :
    ({ r with ownerSignature := some x.hex } : Request).build =
      .ok (tx.authorizedBy (.signed x)) := by
  obtain ⟨valid, hchain, haccount, hsub, hkey, htoken, hfee, hnonce, htime, -⟩ :=
    build_eq_ok_iff.mp h
  have hauth : parseAuthorization (some x.hex) = .ok (.signed x) := by
    rw [parseAuthorization, parseSignature_hex]
    rfl
  exact build_eq_ok_iff.mpr ⟨Transaction.valid_authorizedBy_iff.mpr valid, hchain, haccount, hsub,
    hkey, htoken, hfee, hnonce, htime, hauth⟩

end Request

namespace Signer

variable {s : Signer} {tx : Transaction} {x : Owner.Signature}

theorem ownerSignature_of_onchain {approval : Owner.Approval} (h : tx.authorization = .onchain)
    (ha : s.chain.approval tx.keyHash tx.nonce tx.account = .ok approval) :
    s.ownerSignature tx = s.owner.signText approval.text := by
  have hdigest : s.owner.chain.digest approval.text = .ok approval.digest :=
    (Owner.Chain.approval_eq_ok_iff.mp ha).2
  rw [OwnerKey.signText_eq, hdigest, mapError_ok_bind]
  simp only [ownerSignature, h, Authorization.signature?, Authorization.isCreate2, ha]
  rfl

/-- A signature of the key is passed on where it is carried. -/
theorem signApproved_of_signed (h : s.owner.hasSchemeOf x = true) :
    s.signApproved (tx.authorizedBy (.signed x)) = .ok (s.bundle tx (.signed x)) :=
  (s.signApproved_eq_of_signed rfl).trans (if_pos h)

/-- To sign a transaction is to sign the text of its approval and to supply that signature: both
fail alike, or both lead to one bundle. -/
theorem supplied_signature_agrees {secret : String} {chain : Owner.Chain} {r : Request}
    (hs : new secret chain = .ok s) (hr : r.ownerSignature = none) (hbuild : r.build = .ok tx) :
    ∃ approval, s.chain.approval tx.keyHash tx.nonce tx.account = .ok approval ∧
      ((∃ e, s.signApproved tx = .error e ∧ s.owner.signText approval.text = .error e) ∨
        ∃ b x, s.signApproved tx = .ok b ∧ s.owner.signText approval.text = .ok x ∧
          b.ownerSignature = some x ∧
          ∃ tx', ({ r with ownerSignature := some x.hex } : Request).build = .ok tx' ∧
            s.signApproved tx' = .ok b) := by
  obtain ⟨valid, -⟩ := new_eq_ok hs
  obtain rfl := chain_of_new hs
  obtain ⟨approval, ha⟩ := Owner.Chain.exists_approval valid tx.keyHash tx.nonce tx.account
  have honchain := Request.authorization_of_build hbuild hr
  have hsame := ownerSignature_of_onchain honchain ha
  refine ⟨approval, ha, ?_⟩
  cases htext : s.owner.signText approval.text with
  | error e =>
    rw [htext] at hsame
    left
    refine ⟨e, ?_, rfl⟩
    simp only [signApproved, hsame]
  | ok x =>
    rw [htext] at hsame
    have hscheme : s.owner.hasSchemeOf x = true := by
      rcases ownerSignature_eq_ok_iff.mp hsame with ⟨-, h⟩ | ⟨-, approval, -, hx⟩
      · exact h
      · exact OwnerKey.hasSchemeOf_of_sign hx
    right
    exact ⟨s.bundle tx (.signed x), x, signApproved_eq_ok_iff.mpr ⟨x, hsame, rfl⟩, rfl, rfl,
      tx.authorizedBy (.signed x), Request.build_supplied hbuild x, signApproved_of_signed hscheme⟩

theorem supplied_signature_agrees_for_ten :
    let r := (Transaction.exampleTransaction 0x00 0x21 10).request none
    let tx := Transaction.exampleTransaction 0x01 0x40 10
    ∃ s, (new exampleSecret Owner.Chain.exampleStarknet = .ok s ∧ r.ownerSignature = none ∧
      r.build = .ok tx) ∧
    ∃ approval, s.chain.approval tx.keyHash tx.nonce tx.account = .ok approval ∧
      ((∃ e, s.signApproved tx = .error e ∧ s.owner.signText approval.text = .error e) ∨
        ∃ b x, s.signApproved tx = .ok b ∧ s.owner.signText approval.text = .ok x ∧
          b.ownerSignature = some x ∧
          ∃ tx', ({ r with ownerSignature := some x.hex } : Request).build = .ok tx' ∧
            s.signApproved tx' = .ok b) := by
  intro r tx
  obtain ⟨s, hs⟩ := exists_new_exampleSecret
  have hbuild : r.build = .ok tx := Transaction.build_of_ten
  exact ⟨s, ⟨hs, rfl, hbuild⟩, supplied_signature_agrees hs rfl hbuild⟩

end Signer

end KeyChange
