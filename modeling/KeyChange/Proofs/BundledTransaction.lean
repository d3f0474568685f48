import KeyChange.Bundle
import KeyChange.Proofs.Layout

namespace KeyChange

def Authorization.create2? : Authorization → Option Create2
  | .create2 data => some data
  | _ => none

namespace Bundle

theorem authorization_eq_ok_iff {b : Bundle} {a : Authorization} :
    b.authorization = .ok a ↔ b.ownerSignature = a.signature? ∧ b.create2 = a.create2? := by
  obtain ⟨payload, signature, owner, create2⟩ := b
  cases owner <;> cases create2 <;> cases a <;>
    simp [authorization, Authorization.signature?, Authorization.create2?, eq_comm]

/-- The bytes of a bundle give all of its transaction but the authorization, which the rest of the bundle
shows. -/
theorem decode_eq_ok_iff {b : Bundle} {tx : Transaction} :
    b.decode = .ok tx ↔ tx.Valid ∧ b.payload = tx.encode ∧
      b.ownerSignature = tx.authorization.signature? ∧
      b.create2 = tx.authorization.create2? := by
  constructor
  · intro h
    unfold decode at h
    split at h
    next => simp at h
    next read hread =>
      split at h
      next => simp at h
      next a ha =>
        cases h
        obtain ⟨hencode, -, valid⟩ := Transaction.decode_eq_ok_iff.mp hread
        exact ⟨Transaction.valid_authorizedBy_iff.mpr valid, hencode.symm,
          authorization_eq_ok_iff.mp ha⟩
  · rintro ⟨valid, hpayload, hshown⟩
    unfold decode
    rw [hpayload, Transaction.decode_encode valid, authorization_eq_ok_iff.mpr hshown]
    rfl

end Bundle

end KeyChange
