import KeyChange.Signer
import KeyChange.Proofs.Origin

namespace KeyChange

theorem Bundle.bindsKey_iff {b : Bundle} {tx : Transaction} (valid : tx.Valid)
    (h : b.payload = tx.encode) : b.bindsKey = true ↔ tx.keyHash = b.signature.publicKey.hash := by
  rw [bindsKey, h, Transaction.decode_encode valid]
  exact decide_eq_true_iff

namespace Signer

variable {s : Signer} {tx : Transaction} {a : Authorization} {b : Bundle} {e : Error}

inductive Operation
  | onchain
  | approved
  | create2 (data : Create2) (account : Ethereum.Address)

variable {op : Operation}

def perform (s : Signer) (tx : Transaction) : Operation → Except Error Bundle
  | .onchain => s.signOnchain tx
  | .approved => s.signApproved tx
  | .create2 data account => s.signCreate2 tx data account

/-- The authorization that an operation gives to a transaction, where it does not refuse it. -/
inductive Gives (s : Signer) (tx : Transaction) : Operation → Authorization → Prop
  | onchain (h : tx.authorization.signature? = none) : Gives s tx .onchain .onchain
  | approved {x : Owner.Signature} (h : s.ownerSignature tx = .ok x) :
    Gives s tx .approved (.signed x)
  | create2 {data : Create2} {account : Ethereum.Address}
    (h : data.address tx.keyHash.toList = account) :
    Gives s tx (.create2 data account) (.create2 data)

def bundle (s : Signer) (tx : Transaction) (a : Authorization) : Bundle :=
  ⟨tx.encode, s.rollup.sign tx.encode, a.signature?, a.create2?⟩

@[simp] theorem compose_onchain :
    s.compose (tx.authorizedBy .onchain) none = s.bundle tx .onchain := rfl

@[simp] theorem compose_signed {x : Owner.Signature} :
    s.compose (tx.authorizedBy (.signed x)) (some x) = s.bundle tx (.signed x) := rfl

@[simp] theorem compose_create2 {data : Create2} :
    (s.compose (tx.authorizedBy (.create2 data)) none).withCreate2 data =
      s.bundle tx (.create2 data) := rfl

theorem decode_bundle (valid : tx.Valid) : (s.bundle tx a).decode = .ok (tx.authorizedBy a) :=
  Bundle.decode_eq_ok_iff.mpr
    ⟨Transaction.valid_authorizedBy_iff.mpr valid, (Transaction.encode_authorizedBy tx a).symm,
      rfl, rfl⟩

theorem signOnchain_eq_ok_iff :
    s.signOnchain tx = .ok b ↔
      tx.authorization.signature? = none ∧ b = s.bundle tx .onchain := by
  unfold signOnchain
  split
  next x h => simp [h]
  next h => simp [h, eq_comm]

theorem signOnchain_eq_error_iff :
    s.signOnchain tx = .error e ↔
      (∃ x, tx.authorization.signature? = some x) ∧ e = .signing .carriesSignature := by
  unfold signOnchain
  split
  next x h => simp [h, eq_comm]
  next h => simp [h]

theorem signApproved_eq_ok_iff :
    s.signApproved tx = .ok b ↔
      ∃ x, s.ownerSignature tx = .ok x ∧ b = s.bundle tx (.signed x) := by
  unfold signApproved
  split
  next e h => simp [h]
  next x h => simp [h, eq_comm]

theorem signApproved_eq_error_iff :
    s.signApproved tx = .error e ↔ s.ownerSignature tx = .error e := by
  unfold signApproved
  split
  next e' h => simp [h]
  next x h => simp [h]

theorem signCreate2_eq_ok_iff {data : Create2} {account : Ethereum.Address} :
    s.signCreate2 tx data account = .ok b ↔
      data.address tx.keyHash.toList = account ∧ b = s.bundle tx (.create2 data) := by
  unfold signCreate2
  dsimp only
  split
  next h => simp [h]
  next h => simp [Decidable.not_not.mp h, eq_comm]

theorem signCreate2_eq_error_iff {data : Create2} {account : Ethereum.Address} :
    s.signCreate2 tx data account = .error e ↔ data.address tx.keyHash.toList ≠ account ∧
      e = .validation ⟨"create2Data", .otherAddress (data.address tx.keyHash.toList) account⟩ := by
  unfold signCreate2
  dsimp only
  split
  next h => simp [h, eq_comm]
  next h => simp [h]

theorem isSigned_bundle :
    (s.bundle tx a).isSigned = Ed25519.verify (Ed25519.publicKey s.rollup.secret) tx.encode
      (Ed25519.sign s.rollup.secret tx.encode) := by
  rw [Bundle.isSigned, Rollup.Signature.verify, ← s.rollup.publicKey_eq]
  rfl

/-- All that an operation can do, apart from refusing. -/
theorem perform_eq_ok_iff :
    s.perform tx op = .ok b ↔ ∃ a, s.Gives tx op a ∧ b = s.bundle tx a := by
  cases op with
  | onchain =>
    refine signOnchain_eq_ok_iff.trans ⟨?_, ?_⟩
    · rintro ⟨h, hb⟩
      exact ⟨_, .onchain h, hb⟩
    · rintro ⟨a, ha, hb⟩
      cases ha with
      | onchain h => exact ⟨h, hb⟩
  | approved =>
    refine signApproved_eq_ok_iff.trans ⟨?_, ?_⟩
    · rintro ⟨x, h, hb⟩
      exact ⟨_, .approved h, hb⟩
    · rintro ⟨a, ha, hb⟩
      cases ha with
      | approved h => exact ⟨_, h, hb⟩
  | create2 data account =>
    refine signCreate2_eq_ok_iff.trans ⟨?_, ?_⟩
    · rintro ⟨h, hb⟩
      exact ⟨_, .create2 h, hb⟩
    · rintro ⟨a, ha, hb⟩
      cases ha with
      | create2 h => exact ⟨h, hb⟩

theorem ownerSignature_eq_ok_iff {x : Owner.Signature} :
    s.ownerSignature tx = .ok x ↔
      tx.authorization = .signed x ∧ s.owner.hasSchemeOf x = true ∨
      tx.authorization = .onchain ∧ ∃ approval,
        s.chain.approval tx.keyHash tx.nonce tx.account = .ok approval ∧
        s.owner.sign approval.digest = .ok x := by
  unfold ownerSignature
  cases tx.authorization with
  | onchain =>
    simp only [Authorization.signature?, Authorization.isCreate2]
    cases s.chain.approval tx.keyHash tx.nonce tx.account <;> simp [mapError_eq_ok_iff]
  | signed y =>
    simp only [Authorization.signature?]
    split
    next h =>
      constructor
      · rintro ⟨⟩
        exact Or.inl ⟨rfl, h⟩
      · rintro (⟨⟨⟩, -⟩ | ⟨⟨⟩, -⟩)
        rfl
    next h =>
      constructor
      · intro hx
        simp at hx
      · rintro (⟨⟨⟩, hx⟩ | ⟨⟨⟩, -⟩)
        exact absurd hx h
  | create2 data => simp [Authorization.signature?, Authorization.isCreate2]

/-- A carried signature is passed on or refused, and none is made in its place. -/
theorem signApproved_eq_of_signed (s : Signer) {x : Owner.Signature}
    (h : tx.authorization = .signed x) :
    s.signApproved tx = if s.owner.hasSchemeOf x then .ok (s.bundle tx (.signed x))
      else .error (.signing .otherScheme) := by
  have howner : s.ownerSignature tx =
      if s.owner.hasSchemeOf x then .ok x else .error (.signing .otherScheme) := by
    simp only [ownerSignature, h, Authorization.signature?]
  rw [signApproved, howner]
  by_cases hscheme : s.owner.hasSchemeOf x
  · rw [if_pos hscheme, if_pos hscheme]
    rfl
  · rw [if_neg hscheme, if_neg hscheme]

/-- What every bundle says that an operation returns. Its signature verifies if and only if strict
verification accepts what the secret signs. -/
theorem perform_signs_and_decodes (h : tx.Obtained) (hb : s.perform tx op = .ok b) :
    b.payload = tx.encode ∧ b.hash = tx.hash ∧ b.signature.publicKey = s.publicKey ∧
    (b.isSigned = true ↔ Ed25519.verify (Ed25519.publicKey s.rollup.secret) tx.encode
      (Ed25519.sign s.rollup.secret tx.encode) = true) ∧
    (b.bindsKey = true ↔ tx.keyHash = s.keyHash) ∧
    (∃ a, s.Gives tx op a ∧ b.decode = .ok (tx.authorizedBy a) ∧
      b.ownerSignature = a.signature? ∧ b.create2 = a.create2?) ∧
    (∀ op' b', s.perform tx op' = .ok b' → b'.payload = b.payload ∧ b'.signature = b.signature) := by
  obtain ⟨a, ha, rfl⟩ := perform_eq_ok_iff.mp hb
  refine ⟨rfl, rfl, rfl, by rw [isSigned_bundle], Bundle.bindsKey_iff h.valid rfl,
    ⟨a, ha, decode_bundle h.valid, rfl, rfl⟩, ?_⟩
  intro op' b' hb'
  obtain ⟨a', -, rfl⟩ := perform_eq_ok_iff.mp hb'
  exact ⟨rfl, rfl⟩

def exampleSigner : Signer := ⟨.ofSecret (Bytes.zero 32), .ethereum ⟨1, Bytes.zero 20⟩⟩

theorem supplied_signature_signs_and_decodes :
    let s := exampleSigner
    let tx := (Transaction.exampleTransaction 0x01 0x40 10).authorizedBy
      (.signed Transaction.exampleSignature)
    let b := s.bundle tx (.signed Transaction.exampleSignature)
    (tx.Obtained ∧ s.perform tx .approved = .ok b) ∧
    b.payload = tx.encode ∧ b.hash = tx.hash ∧ b.signature.publicKey = s.publicKey ∧
    (b.isSigned = true ↔ Ed25519.verify (Ed25519.publicKey s.rollup.secret) tx.encode
      (Ed25519.sign s.rollup.secret tx.encode) = true) ∧
    (b.bindsKey = true ↔ tx.keyHash = s.keyHash) ∧
    (∃ a, s.Gives tx .approved a ∧ b.decode = .ok (tx.authorizedBy a) ∧
      b.ownerSignature = a.signature? ∧ b.create2 = a.create2?) ∧
    (∀ op' b', s.perform tx op' = .ok b' → b'.payload = b.payload ∧ b'.signature = b.signature) := by
  intro s tx b
  have htx : (Transaction.exampleBundle 0x01 0x40).decode = .ok tx := rfl
  have hb : s.perform tx .approved = .ok b := perform_eq_ok_iff.mpr ⟨_, .approved rfl, rfl⟩
  exact ⟨⟨.bundled htx, hb⟩, perform_signs_and_decodes (.bundled htx) hb⟩

end Signer

end KeyChange
