import KeyChange.Proofs.ApprovedBundle
import KeyChange.Proofs.HandedOut

namespace KeyChange.Signer

open Transaction

variable {s : Signer} {tx : Transaction} {op : Operation} {a : Authorization} {b : Bundle}

@[simp] theorem bundle_authorizedBy : s.bundle (tx.authorizedBy a) a = s.bundle tx a := rfl

theorem hasSchemeOf_of_ownerSignature {x : Owner.Signature} (h : s.ownerSignature tx = .ok x) :
    s.owner.hasSchemeOf x = true := by
  obtain ⟨-, hscheme⟩ | ⟨-, approval, -, hsign⟩ := ownerSignature_eq_ok_iff.mp h
  · exact hscheme
  · exact OwnerKey.hasSchemeOf_of_sign hsign

/-- What an operation gives, it gives again to the transaction that has it. A signature that was new
is carried by then, and an account is bound to a key hash that no operation changes. -/
theorem Gives.again (h : s.Gives tx op a) : s.Gives (tx.authorizedBy a) op a := by
  cases h with
  | onchain => exact .onchain rfl
  | approved hx =>
    have hscheme := hasSchemeOf_of_ownerSignature hx
    exact .approved (ownerSignature_eq_ok_iff.mpr (Or.inl ⟨rfl, hscheme⟩))
  | create2 haccount => exact .create2 haccount

/-- A transaction that comes back from its bundle is signed to the same bundle. -/
theorem perform_of_decoded (h : tx.HandedOut) (hb : s.perform tx op = .ok b) :
    ∃ tx', b.decode = .ok tx' ∧ s.perform tx' op = .ok b := by
  obtain ⟨a, ha, rfl⟩ := perform_eq_ok_iff.mp hb
  refine ⟨tx.authorizedBy a, decode_bundle h.valid, ?_⟩
  exact perform_eq_ok_iff.mpr ⟨a, ha.again, bundle_authorizedBy.symm⟩

theorem exists_signApproved_exampleTransaction :
    ∃ s b, new exampleSecret Owner.Chain.exampleStarknet = .ok s ∧
      s.signApproved (exampleTransaction 0x01 0x40 10) = .ok b := by
  obtain ⟨s, hs⟩ := exists_new_exampleSecret
  obtain ⟨key, chainId, address, hsecret, howner⟩ := owner_of_exampleSecret hs
  obtain ⟨r, t, hsign, -⟩ := exists_sign_exampleHash
  rw [← hsecret] at hsign
  have happroval := Bundle.approval_exampleStarknet
  rw [← chain_of_new hs] at happroval
  obtain ⟨x, hx⟩ : ∃ x, s.owner.sign (Stark.Felt.toBytes Bundle.exampleHash) = .ok x := by
    rw [howner, OwnerKey.sign, Stark.Felt.reduce_toBytes Bundle.exampleHash]
    exact ⟨_, map_eq_ok_iff.mpr ⟨_, Starknet.Key.sign_eq_ok_iff.mpr ⟨r, t, hsign, rfl⟩, rfl⟩⟩
  have howned := ownerSignature_eq_ok_iff.mpr (Or.inr ⟨rfl, _, happroval, hx⟩)
  exact ⟨s, _, hs, signApproved_eq_ok_iff.mpr ⟨x, howned, rfl⟩⟩

theorem perform_of_decoded_on_starknet :
    let tx := exampleTransaction 0x01 0x40 10
    ∃ s b, new exampleSecret Owner.Chain.exampleStarknet = .ok s ∧
    (tx.HandedOut ∧ s.perform tx .approved = .ok b) ∧
    ∃ tx', b.decode = .ok tx' ∧ s.perform tx' .approved = .ok b := by
  intro tx
  have hdecode : decode (exampleBytes 0x01 0x40) = .ok tx := rfl
  have h : tx.HandedOut := .obtained (.decoded hdecode)
  obtain ⟨s, b, hs, hb⟩ := exists_signApproved_exampleTransaction
  exact ⟨s, b, hs, ⟨h, hb⟩, perform_of_decoded h hb⟩

end KeyChange.Signer
