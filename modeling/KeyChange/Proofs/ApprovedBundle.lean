import KeyChange.Proofs.NewSigner
import KeyChange.Proofs.Signing
import KeyChange.Proofs.BundleText
import KeyChange.Proofs.ApprovalChain

namespace KeyChange

theorem Recoverable.lt_of_sign? {secret : Nat} {digest : Bytes 32} {y : Signature}
    (h : sign? secret digest = some y) : y.r < 256 ^ (32 : Nat) ∧ y.s < 256 ^ (32 : Nat) := by
  have horder : Secp256k1.order < 256 ^ (32 : Nat) := by decide
  rw [sign?, Option.bind_eq_some_iff] at h
  obtain ⟨k, -, hk⟩ := h
  unfold signWith? at hk
  split at hk
  next => simp at hk
  next p q _ =>
    dsimp only at hk
    split at hk
    next => simp at hk
    next =>
      cases hk
      constructor
      · exact Nat.lt_trans (Nat.mod_lt _ (by decide)) horder
      · dsimp only
        split
        next => exact Nat.lt_of_le_of_lt (Nat.sub_le _ _) horder
        next => exact Nat.lt_trans (Nat.mod_lt _ (by decide)) horder

theorem Ethereum.Key.sign_eq_ok_iff {key : Ethereum.Key} {digest : Bytes 32}
    {x : Ethereum.Signature} :
    key.sign digest = .ok x ↔ ∃ y, Recoverable.sign? key.secret digest = some y ∧
      x = ⟨Bytes.ofNat 32 y.r, Bytes.ofNat 32 y.s, ⟨y.isOdd, true⟩⟩ := by
  rw [sign]
  generalize Recoverable.sign? key.secret digest = result
  cases result with
  | none => simp
  | some y => simp [eq_comm]

theorem Starknet.Key.sign_eq_ok_iff {key : Starknet.Key} {hash : Stark.Felt}
    {x : Starknet.Signature} :
    key.sign hash = .ok x ↔ ∃ r s, StarkEcdsa.sign key.secret hash = .ok (r, s) ∧
      x = ⟨key.publicKey, r, s⟩ := by
  rw [sign, mapError_eq_ok_iff, map_eq_ok_iff]
  constructor
  · rintro ⟨⟨r, s⟩, hsign, rfl⟩
    exact ⟨r, s, hsign, rfl⟩
  · rintro ⟨r, s, hsign, rfl⟩
    exact ⟨(r, s), hsign, rfl⟩

/-- What the schemes promise of a key and a digest: from the signature the address is recovered, or
the signature is accepted for the key. -/
def OwnerKey.Accepts : OwnerKey → Bytes 32 → Prop
  | .ethereum key, digest => ∀ y, Recoverable.sign? key.secret digest = some y →
    (Recoverable.recover? y digest).map (fun p => Ethereum.Address.ofPublicKey p.1 p.2) =
      some key.address
  | .starknet key _ _, digest => ∀ r s,
    StarkEcdsa.sign key.secret (Stark.Felt.reduce digest.toList) = .ok (r, s) →
      StarkEcdsa.verify (StarkEcdsa.publicKey key.secret) (Stark.Felt.reduce digest.toList) r s = true

theorem Ethereum.Key.recover_of_sign {key : Ethereum.Key} {digest : Bytes 32}
    {x : Ethereum.Signature} (haccept : (OwnerKey.ethereum key).Accepts digest)
    (h : key.sign digest = .ok x) : x.recover digest = .ok key.address := by
  obtain ⟨y, hy, rfl⟩ := sign_eq_ok_iff.mp h
  obtain ⟨hr, hs⟩ := Recoverable.lt_of_sign? hy
  have hnumbers : (⟨(Bytes.ofNat 32 y.r).toNat, (Bytes.ofNat 32 y.s).toNat, y.isOdd⟩ :
      Recoverable.Signature) = y := by
    rw [Bytes.toNat_ofNat, Bytes.toNat_ofNat, Nat.mod_eq_of_lt hr, Nat.mod_eq_of_lt hs]
  have hrecover := haccept y hy
  rw [Signature.recover, hnumbers]
  generalize Recoverable.recover? y digest = point at hrecover ⊢
  cases point with
  | none => simp at hrecover
  | some p => simpa using hrecover

theorem Starknet.Key.verify_of_sign {secret chainId address : String} {key : Starknet.Key}
    {digest : Bytes 32} {x : Starknet.Signature} (hkey : parse secret = .ok key)
    (haccept : (OwnerKey.starknet key chainId address).Accepts digest)
    (h : key.sign (Stark.Felt.reduce digest.toList) = .ok x) :
    x.publicKey = key.publicKey ∧ x.verify (Stark.Felt.reduce digest.toList) = true := by
  obtain ⟨r, s, hsign, rfl⟩ := sign_eq_ok_iff.mp h
  refine ⟨rfl, ?_⟩
  rw [Signature.verify, publicKey_of_parse hkey]
  exact haccept r s hsign

theorem OwnerKey.Spelled.signedBy_of_sign {secret : String} {chain : Owner.Chain} {key : OwnerKey}
    {digest : Bytes 32} {x : Owner.Signature} (hspelled : Spelled secret chain key)
    (haccept : key.Accepts digest) (h : key.sign digest = .ok x) :
    x.SignedBy digest key.identity := by
  cases hspelled with
  | ethereum hkey =>
    rw [sign] at h
    obtain ⟨y, hy, rfl⟩ := map_eq_ok_iff.mp h
    exact .ethereum (Ethereum.Key.recover_of_sign haccept hy)
  | starknet hkey =>
    rw [sign] at h
    obtain ⟨y, hy, rfl⟩ := map_eq_ok_iff.mp h
    obtain ⟨hpublic, hverify⟩ := Starknet.Key.verify_of_sign hkey haccept hy
    rw [identity, ← hpublic]
    exact .starknet hverify

namespace Signer

variable {s : Signer} {secret : String} {chain : Owner.Chain} {tx : Transaction} {b : Bundle}

/-- A bundle shows no two authorizations, so what is written is read back. -/
theorem parse_render_of_signApproved (hb : s.signApproved tx = .ok b) :
    Bundle.parse b.render = .ok b := by
  obtain ⟨x, -, rfl⟩ := signApproved_eq_ok_iff.mp hb
  rw [Bundle.parse_render, if_neg]
  rintro ⟨hcreate2, -⟩
  simp [bundle, Authorization.create2?] at hcreate2

/-- What a signer approves itself is found approved, on its chain and for its identity, from the bundle
alone, also after the bundle was written and read. -/
theorem isApproved_of_signApproved (hs : new secret chain = .ok s) (h : tx.Obtained)
    (honchain : tx.authorization = .onchain)
    (haccept : ∀ approval, s.chain.approval tx.keyHash tx.nonce tx.account = .ok approval →
      s.owner.Accepts approval.digest)
    (hb : s.signApproved tx = .ok b) :
    b.isApproved s.chain s.identity = .ok true ∧
    ∃ b', Bundle.parse b.render = .ok b' ∧ b'.isApproved s.chain s.identity = .ok true := by
  obtain ⟨-, hspelled⟩ := new_eq_ok hs
  obtain ⟨x, hx, hbundle⟩ := signApproved_eq_ok_iff.mp hb
  have happroved : b.isApproved s.chain s.identity = .ok true := by
    rcases ownerSignature_eq_ok_iff.mp hx with ⟨hcarried, -⟩ | ⟨-, approval, happroval, hsign⟩
    · rw [honchain] at hcarried
      cases hcarried
    · have hsigned := hspelled.signedBy_of_sign (haccept approval happroval) hsign
      -- The bytes give the transaction back up to its authorization, which no approval depends on.
      have hdecode : Transaction.decode b.payload = .ok (tx.authorizedBy .onchain) := by
        rw [hbundle]
        exact Transaction.decode_encode h.valid
      have hsignature : b.ownerSignature = some x := by rw [hbundle]; rfl
      exact Bundle.isApproved_eq_true_iff.mpr
        ⟨_, approval, x, hdecode, happroval, hsignature, hsigned⟩
  exact ⟨happroved, b, parse_render_of_signApproved hb, happroved⟩

theorem exists_sign_exampleHash :
    ∃ r t, StarkEcdsa.sign exampleNumber Bundle.exampleHash = .ok (r, t) ∧
      StarkEcdsa.verify (StarkEcdsa.publicKey exampleNumber) Bundle.exampleHash r t = true :=
  ⟨⟨0x04617d6b45e07f8068e88c21c4d92657a4ab89db04cc456664e2dfc4579e2ac7, by decide⟩,
    ⟨0x06208b5d32de5e8ca21e56c6acc17135bf1dfe51ea598e1039460f939ade95f8, by decide⟩,
    by decide +kernel, by decide +kernel⟩

theorem isApproved_of_signApproved_on_starknet :
    let tx := Transaction.exampleTransaction 0x01 0x40 10
    ∃ s b, (new exampleSecret Owner.Chain.exampleStarknet = .ok s ∧ tx.Obtained ∧
      tx.authorization = .onchain ∧
      (∀ approval, s.chain.approval tx.keyHash tx.nonce tx.account = .ok approval →
        s.owner.Accepts approval.digest) ∧
      s.signApproved tx = .ok b) ∧
    b.isApproved s.chain s.identity = .ok true ∧
    ∃ b', Bundle.parse b.render = .ok b' ∧ b'.isApproved s.chain s.identity = .ok true := by
  intro tx
  have hdecode : Transaction.decode (Transaction.exampleBytes 0x01 0x40) = .ok tx := rfl
  have hreduce := Stark.Felt.reduce_toBytes Bundle.exampleHash
  obtain ⟨s, hs⟩ := exists_new_exampleSecret
  obtain ⟨key, chainId, address, hsecret, howner⟩ := owner_of_exampleSecret hs
  obtain ⟨r, t, hsign, hverify⟩ := exists_sign_exampleHash
  rw [← hsecret] at hsign hverify
  have happroval := Bundle.approval_exampleStarknet
  rw [← chain_of_new hs] at happroval
  have haccept : ∀ approval, s.chain.approval tx.keyHash tx.nonce tx.account = .ok approval →
      s.owner.Accepts approval.digest := by
    intro approval h
    obtain rfl := Except.ok.inj (h.symm.trans happroval)
    rw [howner]
    intro r' t' hsign'
    rw [hreduce] at hsign' ⊢
    obtain ⟨rfl, rfl⟩ := Prod.mk.inj (Except.ok.inj (hsign'.symm.trans hsign))
    exact hverify
  obtain ⟨x, hx⟩ : ∃ x, s.owner.sign (Stark.Felt.toBytes Bundle.exampleHash) = .ok x := by
    rw [howner, OwnerKey.sign, hreduce]
    exact ⟨_, map_eq_ok_iff.mpr ⟨_, Starknet.Key.sign_eq_ok_iff.mpr ⟨r, t, hsign, rfl⟩, rfl⟩⟩
  have hb : s.signApproved tx = .ok (s.bundle tx (.signed x)) :=
    signApproved_eq_ok_iff.mpr
      ⟨x, ownerSignature_eq_ok_iff.mpr (Or.inr ⟨rfl, _, happroval, hx⟩), rfl⟩
  exact ⟨s, _, ⟨hs, .decoded hdecode, rfl, haccept, hb⟩,
    isApproved_of_signApproved hs (.decoded hdecode) rfl haccept hb⟩

end Signer

end KeyChange
