import KeyChange.Proofs.ApprovalChain
import KeyChange.Proofs.Rebuild
import KeyChange.Proofs.SignatureText
import KeyChange.Proofs.Signing

namespace KeyChange

theorem Owner.Signature.kind_eq_iff {x : Owner.Signature} {k : Owner.Kind} :
    x.kind = k ↔ x.toList.length = 65 ∧ k = .ethereum ∨ x.toList.length = 96 ∧ k = .starknet := by
  cases x with
  | ethereum x =>
    have hlen : (ethereum x).toList.length = 65 := Ethereum.Signature.length_toList x
    simp [hlen, kind, eq_comm]
  | starknet x =>
    have hlen : (starknet x).toList.length = 96 := Starknet.Signature.length_toList x
    simp [hlen, kind, eq_comm]

theorem OwnerKey.hasSchemeOf_iff {key : OwnerKey} {x : Owner.Signature} :
    key.hasSchemeOf x = true ↔ x.kind = key.chain.kind := by
  cases key <;> cases x <;> simp [hasSchemeOf, chain, Owner.Chain.kind, Owner.Signature.kind]

/-- A supplied text becomes the authorization, as the signature whose bytes it spells. -/
theorem Request.signed_of_build {r : Request} {tx : Transaction} {text : String}
    (h : r.build = .ok tx) (hr : r.ownerSignature = some text) :
    ∃ x, tx.authorization = .signed x ∧ Hex.decodePrefixed text = .ok x.toList := by
  obtain ⟨-, -, -, -, -, -, -, -, -, hauth⟩ := build_eq_ok_iff.mp h
  rw [hr] at hauth
  obtain ⟨x, hx, hsigned⟩ := map_eq_ok_iff.mp hauth
  exact ⟨x, hsigned.symm, parseSignature_eq_ok_iff.mp hx⟩

namespace Signer

variable {s : Signer} {tx : Transaction} {x : Owner.Signature}

/-- The bytes are as many as the signer's scheme asks for. -/
def Takes (s : Signer) (bytes : List UInt8) : Prop :=
  bytes.length = 65 ∧ s.chain.kind = .ethereum ∨ bytes.length = 96 ∧ s.chain.kind = .starknet

/-- What is supplied is shown as it was spelled, if it is of the signer's scheme. If it is not, nothing is
signed, and for the chain alone nothing is signed in any case. -/
theorem supplied_text_shown {r : Request} {text : String} (hr : r.ownerSignature = some text)
    (h : r.build = .ok tx) :
    ∃ bytes, Hex.decodePrefixed text = .ok bytes ∧
      ((∃ b, s.signApproved tx = .ok b) ↔ s.Takes bytes) ∧
      (∀ b, s.signApproved tx = .ok b → ∃ x, b.ownerSignature = some x ∧ x.hex = text.toLower ∧
        ∃ tx', b.decode = .ok tx' ∧ tx'.authorization = .signed x) ∧
      (¬s.Takes bytes → s.signApproved tx = .error (.signing .otherScheme)) ∧
      s.signOnchain tx = .error (.signing .carriesSignature) := by
  obtain ⟨x, hsigned, hbytes⟩ := Request.signed_of_build h hr
  have valid := (Request.build_eq_ok_iff.mp h).1
  have hresult := s.signApproved_eq_of_signed hsigned
  have htakes : s.owner.hasSchemeOf x = true ↔ s.Takes x.toList :=
    OwnerKey.hasSchemeOf_iff.trans Owner.Signature.kind_eq_iff
  refine ⟨x.toList, hbytes, ?_, ?_, ?_, ?_⟩
  · rw [← htakes, hresult]
    split
    next hscheme => simp [hscheme]
    next hscheme => simp [hscheme]
  · intro b hb
    rw [hresult] at hb
    split at hb
    next hscheme =>
      cases hb
      exact ⟨x, rfl, Hex.prefixed_of_decodePrefixed hbytes, _, decode_bundle valid, rfl⟩
    next => simp at hb
  · intro hother
    rw [hresult, if_neg (mt htakes.mp hother)]
  · simp only [signOnchain, hsigned, Authorization.signature?]

def exampleText : String :=
  "0xABCDEFabcdef0123456789AbCdEf0123456789aBcDeF0123456789ABCDEFabcd" ++
    "00000000000000000000000000000000000000000000000000000000000000fF" ++ "01"

theorem supplied_text_shown_in_lower_case :
    let s := exampleSigner
    let r := (Transaction.exampleTransaction 0x00 0x21 10).request (some exampleText)
    ∃ tx, (r.ownerSignature = some exampleText ∧ r.build = .ok tx) ∧
    ∃ bytes, Hex.decodePrefixed exampleText = .ok bytes ∧
      ((∃ b, s.signApproved tx = .ok b) ↔ s.Takes bytes) ∧
      (∀ b, s.signApproved tx = .ok b →
        ∃ x, b.ownerSignature = some x ∧ x.hex = exampleText.toLower ∧
          ∃ tx', b.decode = .ok tx' ∧ tx'.authorization = .signed x) ∧
      (¬s.Takes bytes → s.signApproved tx = .error (.signing .otherScheme)) ∧
      s.signOnchain tx = .error (.signing .carriesSignature) := by
  intro s r
  have hok : r.build.isOk = true := by decide +kernel
  obtain ⟨tx, hbuild⟩ := exists_of_isOk hok
  exact ⟨tx, ⟨rfl, hbuild⟩, supplied_text_shown rfl hbuild⟩

end Signer

end KeyChange
