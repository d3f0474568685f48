import KeyChange.Proofs.Signing

namespace KeyChange.Signer

open Transaction

variable {s : Signer} {tx : Transaction} {op : Operation}

/-- Where a transaction carries an authorization, the operation refuses or shows just that. -/
def KeepsAuthorization (s : Signer) (tx : Transaction) (op : Operation) : Prop :=
  tx.authorization ≠ .onchain → ∀ b, s.perform tx op = .ok b →
    ∃ tx', b.decode = .ok tx' ∧ tx'.authorization = tx.authorization

/-- The operation replaces what the transaction carries. The on-chain one drops what an account
bound to the key needs, and signing for such an account drops everything but its own data. -/
def Operation.Overwrites (tx : Transaction) : Operation → Prop
  | .onchain => tx.authorization.isCreate2 = true
  | .approved => False
  | .create2 data account => data.address tx.keyHash.toList = account ∧
    tx.authorization ≠ .onchain ∧ tx.authorization ≠ .create2 data

theorem keepsAuthorization_iff_gives (valid : tx.Valid) :
    s.KeepsAuthorization tx op ↔
      (tx.authorization ≠ .onchain → ∀ a, s.Gives tx op a → a = tx.authorization) := by
  unfold KeepsAuthorization
  constructor
  · intro keeps hne a ha
    obtain ⟨tx', hdecode, hsame⟩ := keeps hne _ (perform_eq_ok_iff.mpr ⟨a, ha, rfl⟩)
    rw [decode_bundle valid] at hdecode
    cases hdecode
    exact hsame
  · intro keeps hne b hb
    obtain ⟨a, ha, rfl⟩ := perform_eq_ok_iff.mp hb
    exact ⟨_, decode_bundle valid, keeps hne a ha⟩

/-- Whatever is carried is kept, apart from what is overwritten. -/
theorem keepsAuthorization_iff (h : tx.Obtained) :
    s.KeepsAuthorization tx op ↔ ¬op.Overwrites tx := by
  rw [keepsAuthorization_iff_gives h.valid]
  cases op with
  | onchain =>
    constructor
    · intro keeps hcarried
      cases hcarries : tx.authorization with
      | create2 data =>
        have hgives : s.Gives tx .onchain .onchain := .onchain (by rw [hcarries]; rfl)
        have := keeps (by simp [hcarries]) _ hgives
        simp [hcarries] at this
      | _ => simp [Operation.Overwrites, hcarries, Authorization.isCreate2] at hcarried
    · intro hkept hne a ha
      cases ha with
      | onchain hnone =>
        cases hcarries : tx.authorization with
        | onchain => rfl
        | signed x => simp [hcarries, Authorization.signature?] at hnone
        | create2 data => simp [Operation.Overwrites, hcarries, Authorization.isCreate2] at hkept
  | approved =>
    refine iff_of_true ?_ (fun h => h)
    intro hne a ha
    cases ha with
    | approved hx =>
      obtain ⟨hcarried, -⟩ | ⟨honchain, -⟩ := ownerSignature_eq_ok_iff.mp hx
      · exact hcarried.symm
      · exact absurd honchain hne
  | create2 data account =>
    constructor
    · rintro keeps ⟨haccount, hne, hother⟩
      exact hother (keeps hne _ (.create2 haccount)).symm
    · intro hkept hne a ha
      cases ha with
      | create2 haccount =>
        by_cases hsame : tx.authorization = .create2 data
        · exact hsame.symm
        · exact absurd ⟨haccount, hne, hsame⟩ hkept

theorem keepsAuthorization_of_signature :
    let s := exampleSigner
    let tx := (exampleTransaction 0x01 0x40 10).authorizedBy (.signed exampleSignature)
    tx.Obtained ∧ (s.KeepsAuthorization tx .onchain ↔ ¬Operation.onchain.Overwrites tx) := by
  intro s tx
  have htx : (exampleBundle 0x01 0x40).decode = .ok tx := rfl
  exact ⟨.bundled htx, keepsAuthorization_iff (.bundled htx)⟩

def exampleCreate2 : Create2 := ⟨Bytes.zero 20, Bytes.zero 32, Bytes.zero 32⟩

/-- Every signer drops the data of an account bound to the key, and every signer drops a signature
for such data. -/
theorem authorization_replaced :
    let tx := exampleTransaction 0x01 0x40 10
    let bound := tx.authorizedBy (.create2 exampleCreate2)
    let signed := tx.authorizedBy (.signed exampleSignature)
    let account := exampleCreate2.address tx.keyHash.toList
    bound.Obtained ∧ signed.Obtained ∧
    (∀ s : Signer, ∃ b, s.perform bound .onchain = .ok b ∧ b.decode = .ok tx) ∧
    (∀ s : Signer, ∃ b, s.perform signed (.create2 exampleCreate2 account) = .ok b ∧
      b.decode = .ok bound) := by
  intro tx bound signed account
  have hbytes : decode (exampleBytes 0x01 0x40) = .ok tx := rfl
  have valid : tx.Valid := Obtained.valid (.decoded hbytes)
  have hbound : bound.Valid := valid_authorizedBy_iff.mpr valid
  have hsigned : signed.Valid := valid_authorizedBy_iff.mpr valid
  have honchain (s : Signer) : s.perform bound .onchain = .ok (s.bundle bound .onchain) :=
    perform_eq_ok_iff.mpr ⟨_, .onchain rfl, rfl⟩
  have hcreate2 (s : Signer) : s.perform signed (.create2 exampleCreate2 account) =
      .ok (s.bundle signed (.create2 exampleCreate2)) :=
    perform_eq_ok_iff.mpr ⟨_, .create2 rfl, rfl⟩
  exact ⟨hbound.obtained, hsigned.obtained, fun s => ⟨_, honchain s, decode_bundle hbound⟩,
    fun s => ⟨_, hcreate2 s, decode_bundle hsigned⟩⟩

end KeyChange.Signer
