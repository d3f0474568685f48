import KeyChange.Proofs.BundleText
import KeyChange.Proofs.CarriedAuthorization

namespace KeyChange.Bundle

variable {b c : Bundle} {e : Error} {text : String}

/-- Bundles are composed of parts, made by signers, or read from text, which may be that of a bundle
obtained before. -/
inductive Obtained : Bundle → Prop
  | composed (payload : List UInt8) (signature : Rollup.Signature)
    (ownerSignature : Option Owner.Signature) :
    Obtained (compose payload signature ownerSignature)
  | signed {s : Signer} {tx : Transaction} {op : Signer.Operation} {b : Bundle}
    (h : s.perform tx op = .ok b) : Obtained b
  | read {text : String} {b : Bundle} (h : parse text = .ok b) : Obtained b
  | passedOn {b c : Bundle} (h : Obtained b) (hread : parse b.render = .ok c) : Obtained c

theorem authorization_eq_error_iff {e : FieldError} :
    b.authorization = .error e ↔ (b.create2.isSome ∧ b.ownerSignature.isSome) ∧ e = conflict := by
  obtain ⟨payload, signature, owner, create2⟩ := b
  cases owner <;> cases create2 <;> simp [authorization, @eq_comm _ conflict]

theorem decode_eq_error_iff :
    b.decode = .error e ↔
      (∃ fault, Transaction.decode b.payload = .error fault ∧ e = .encoding fault) ∨
      (∃ tx, Transaction.decode b.payload = .ok tx) ∧
        (b.create2.isSome ∧ b.ownerSignature.isSome) ∧ e = .validation conflict := by
  unfold decode
  cases Transaction.decode b.payload with
  | error fault => simpa using eq_comm
  | ok tx =>
    cases h : b.authorization with
    | error e' =>
      obtain ⟨hboth, rfl⟩ := authorization_eq_error_iff.mp h
      simp [hboth, eq_comm]
    | ok a =>
      have hsingle : ¬(b.create2.isSome ∧ b.ownerSignature.isSome) := fun hboth => by
        cases h.symm.trans (authorization_eq_error_iff.mpr ⟨hboth, rfl⟩)
      simp [hsingle]

theorem parse_eq_conflict_iff (h : Json.readFrom read text = .ok b) :
    parse text = .error (.validation conflict) ↔ b.authorization = .error conflict := by
  rw [authorization_eq_error_iff, parse, h]
  dsimp only
  split
  next hboth => exact iff_of_true rfl ⟨hboth, rfl⟩
  next hsingle => exact iff_of_false (by simp) fun hconflict => hsingle hconflict.1

theorem shows_one_of_perform {s : Signer} {tx : Transaction} {op : Signer.Operation}
    (h : s.perform tx op = .ok b) : ¬(b.create2.isSome ∧ b.ownerSignature.isSome) := by
  obtain ⟨a, -, rfl⟩ := Signer.perform_eq_ok_iff.mp h
  cases a <;> simp [Signer.bundle, Authorization.signature?, Authorization.create2?]

theorem Obtained.shows_one (h : b.Obtained) : ¬(b.create2.isSome ∧ b.ownerSignature.isSome) := by
  induction h with
  | composed payload signature ownerSignature => simp [compose]
  | signed h => exact shows_one_of_perform h
  | read h => exact (parse_eq_ok_iff.mp h).2
  | passedOn _ hread _ => exact (parse_eq_ok_iff.mp hread).2

/-- Nothing else is asked of a bundle: any other can be written and read. -/
theorem obtained_iff : b.Obtained ↔ ¬(b.create2.isSome ∧ b.ownerSignature.isSome) := by
  refine ⟨Obtained.shows_one, fun hsingle => ?_⟩
  have hread : parse b.render = .ok b := by rw [parse_render, if_neg hsingle]
  exact .read hread

/-- The bundles that can be obtained are those that show one authorization at most. Decoding such a bundle
fails exactly if its bytes are no transaction, with the error of the bytes, and never for two
authorizations. What the reader of texts refuses is what decoding would refuse. -/
theorem obtained_shows_one_authorization (b : Bundle) :
    (b.Obtained ↔ ¬(b.create2.isSome ∧ b.ownerSignature.isSome)) ∧
    (b.Obtained →
      (∀ e, b.decode = .error e ↔
        ∃ fault, Transaction.decode b.payload = .error fault ∧ e = .encoding fault) ∧
      b.decode ≠ .error (.validation conflict)) ∧
    ∀ text, Json.readFrom read text = .ok b →
      (parse text = .error (.validation conflict) ↔ b.authorization = .error conflict) := by
  refine ⟨obtained_iff, fun h => ?_, fun text => parse_eq_conflict_iff⟩
  have hdecode (e : Error) : b.decode = .error e ↔
      ∃ fault, Transaction.decode b.payload = .error fault ∧ e = .encoding fault := by
    rw [decode_eq_error_iff]
    exact or_iff_left fun hconflict => h.shows_one hconflict.2.1
  refine ⟨hdecode, fun hconflict => ?_⟩
  obtain ⟨fault, -, he⟩ := (hdecode _).mp hconflict
  cases he

theorem passed_on_bundle_shows_one_authorization :
    let s := Signer.exampleSigner
    let tx := (Transaction.exampleTransaction 0x01 0x40 10).authorizedBy
      (.signed Transaction.exampleSignature)
    let b := s.bundle tx (.create2 Signer.exampleCreate2)
    b.Obtained ∧
    ((∀ e, b.decode = .error e ↔
        ∃ fault, Transaction.decode b.payload = .error fault ∧ e = .encoding fault) ∧
      b.decode ≠ .error (.validation conflict)) ∧
    Json.readFrom read b.render = .ok b ∧
    (parse b.render = .error (.validation conflict) ↔ b.authorization = .error conflict) := by
  intro s tx b
  have hsigned : s.perform tx
      (.create2 Signer.exampleCreate2 (Signer.exampleCreate2.address tx.keyHash.toList)) = .ok b :=
    Signer.perform_eq_ok_iff.mpr ⟨_, .create2 rfl, rfl⟩
  have hread : parse b.render = .ok b := by
    rw [parse_render, if_neg (by simp [b, Signer.bundle, Authorization.signature?])]
  have h : b.Obtained := .passedOn (.signed hsigned) hread
  obtain ⟨-, hdecode, hrefused⟩ := obtained_shows_one_authorization b
  exact ⟨h, hdecode h, read_render b, hrefused _ (read_render b)⟩

end KeyChange.Bundle
