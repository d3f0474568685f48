import KeyChange.Proofs.ApprovalChain
import KeyChange.Proofs.NewSigner
import KeyChange.Proofs.SecretText

namespace KeyChange

variable {s s' : String} {bytes : Bytes 32}

theorem ofBigEndian_eq_zero_iff {bs : List UInt8} : ofBigEndian bs = 0 ↔ ∀ b ∈ bs, b = 0 := by
  induction bs with
  | nil => simp [ofBigEndian, ofLittleEndian]
  | cons b bs ih =>
    rw [ofBigEndian_cons, List.forall_mem_cons, ← ih, ← UInt8.toNat_inj]
    have hpos : 0 < 256 ^ bs.length := Nat.pow_pos (by decide)
    have hmul : 256 ^ bs.length * b.toNat = 0 ↔ b.toNat = 0 := by
      rw [Nat.mul_eq_zero]
      omega
    rw [Nat.add_eq_zero_iff, hmul]
    exact and_comm

namespace Starknet.Key

/-- The range of secrets, as bytes that are compared from the first on. -/
theorem isSecret_iff_bytes : IsSecret bytes.toNat ↔
    (∃ b ∈ bytes.toList, b ≠ 0) ∧ bytes.toList < (Bytes.ofNat 32 Stark.order).toList := by
  have horder : ofBigEndian (Bytes.ofNat 32 Stark.order).toList = Stark.order := by decide
  rw [← ofBigEndian_lt_iff
    (bytes.length_toList.trans (Bytes.ofNat 32 Stark.order).length_toList.symm), horder]
  have hzero : (∃ b ∈ bytes.toList, b ≠ 0) ↔ ofBigEndian bytes.toList ≠ 0 := by
    rw [ne_eq, ofBigEndian_eq_zero_iff]
    simp
  rw [hzero, IsSecret, Bytes.toNat]
  omega

theorem val_reduce_secret (h : IsSecret bytes.toNat) : (Stark.Felt.reduce bytes.toList).val = bytes.toNat :=
  Nat.mod_eq_of_lt (Nat.lt_trans h.2 (by decide))

end Starknet.Key

namespace Rollup.Key

def ofText : Owner.Kind → String → Except Error Key
  | .ethereum, s => ofEthereumText s
  | .starknet, s => (Starknet.Key.parse s).mapError .key >>= ofStarknetKey

theorem ofEthereumText_eq_bind (s : String) :
    ofEthereumText s = (Ethereum.Key.parse s).mapError .key >>= ofEthereumKey := by
  unfold ofEthereumText
  split
  next fault h =>
    rw [h]
    rfl
  next key h => rw [h, mapError_ok_bind]

end Rollup.Key

namespace Signer

variable {chain chain' : Owner.Chain}

theorem new_ethereum (s : String) : new s .ethereum = (Ethereum.Key.parse s).mapError .key >>=
    fun key => (Rollup.Key.ofEthereumKey key).map (⟨·, .ethereum key⟩) := by
  unfold new Owner.Chain.validate
  dsimp only
  cases Ethereum.Key.parse s with
  | error fault => rfl
  | ok key => rw [mapError_ok_bind]

theorem new_starknet {chainId address : String}
    (valid : (Owner.Chain.starknet chainId address).validate = .ok ()) (s : String) :
    new s (.starknet chainId address) = (Starknet.Key.parse s).mapError .key >>=
      fun key => (Rollup.Key.ofStarknetKey key).map (⟨·, .starknet key chainId address⟩) := by
  unfold new
  rw [valid]
  dsimp only
  cases Starknet.Key.parse s with
  | error fault => rfl
  | ok key => rw [mapError_ok_bind]

/-- What a signer is known by to others. -/
structure Shown where
  identity : Owner.Identity
  publicKey : Rollup.PublicKey
  keyHash : Rollup.KeyHash

def shown (a : Signer) : Shown := ⟨a.identity, a.publicKey, a.keyHash⟩

theorem map_rollup_new (valid : chain.validate = .ok ()) (s : String) :
    (new s chain).map (·.rollup) = Rollup.Key.ofText chain.kind s := by
  cases chain with
  | ethereum =>
    rw [new_ethereum, Owner.Chain.kind, Rollup.Key.ofText, Rollup.Key.ofEthereumText_eq_bind]
    cases Ethereum.Key.parse s with
    | error fault => rfl
    | ok key =>
      rw [mapError_ok_bind, mapError_ok_bind]
      cases Rollup.Key.ofEthereumKey key <;> rfl
  | starknet chainId address =>
    rw [new_starknet valid, Owner.Chain.kind, Rollup.Key.ofText]
    cases Starknet.Key.parse s with
    | error fault => rfl
    | ok key =>
      rw [mapError_ok_bind, mapError_ok_bind]
      cases Rollup.Key.ofStarknetKey key <;> rfl

/-- What a signer shows is decided by the bytes that its text spells and by the kind of its chain. -/
theorem map_shown_new_eq (hs : Secret.Spells s bytes) (hs' : Secret.Spells s' bytes)
    (valid : chain.validate = .ok ()) (valid' : chain'.validate = .ok ())
    (hkind : chain.kind = chain'.kind) :
    (new s chain).map shown = (new s' chain').map shown := by
  have hparse : Secret.parse s = Secret.parse s' := by
    rw [Secret.parse_eq_ok_iff.mpr hs, Secret.parse_eq_ok_iff.mpr hs']
  cases chain with
  | ethereum =>
    cases chain' with
    | ethereum =>
      have hkey : Ethereum.Key.parse s = Ethereum.Key.parse s' := by
        rw [Ethereum.Key.parse_eq_bind, Ethereum.Key.parse_eq_bind, hparse]
      rw [new_ethereum, new_ethereum, hkey]
    | starknet => cases hkind
  | starknet =>
    cases chain' with
    | ethereum => cases hkind
    | starknet =>
      have hkey : Starknet.Key.parse s = Starknet.Key.parse s' := by
        rw [Starknet.Key.parse_eq_bind, Starknet.Key.parse_eq_bind, hparse]
      rw [new_starknet valid, new_starknet valid', hkey]
      cases Starknet.Key.parse s' with
      | error fault => rw [mapError_error_bind, mapError_error_bind]
      | ok key =>
        rw [mapError_ok_bind, mapError_ok_bind]
        cases Rollup.Key.ofStarknetKey key <;> rfl

/-- A text is a Starknet key if and only if it is 64 digits of a number in range, and any other text is
refused for the first thing that is wrong with it. What is in range is so as bytes too, and is not reduced.
Texts of the same bytes give the same error, or signers that show the same; their rollup key is the one that
is derived from either text. -/
theorem keys_read_by_value (s s' : String) :
    (∀ key, Starknet.Key.parse s = .ok key ↔ ∃ ds, Secret.IsWritten s ds ∧
      Starknet.Key.IsSecret (Hex.value ds) ∧
      key = ⟨Hex.value ds, StarkEcdsa.publicKey (Hex.value ds)⟩) ∧
    (∀ e, (Starknet.Key.parse s).mapError Error.key = .error e ↔
      ∃ fault, FirstUnmet (Starknet.Key.conditions s) fault ∧ e = .key fault) ∧
    ∀ bytes, Secret.Spells s bytes →
      (Starknet.Key.IsSecret bytes.toNat ↔
        (∃ b ∈ bytes.toList, b ≠ 0) ∧ bytes.toList < (Bytes.ofNat 32 Stark.order).toList) ∧
      (∀ key, Starknet.Key.parse s = .ok key →
        key.secret = bytes.toNat ∧ (Stark.Felt.reduce bytes.toList).val = key.secret) ∧
      (Secret.Spells s' bytes → ∀ chain chain' : Owner.Chain,
        chain.validate = .ok () → chain'.validate = .ok () → chain.kind = chain'.kind →
        (∃ e, new s chain = .error e ∧ new s' chain' = .error e) ∨
        ∃ a a', new s chain = .ok a ∧ new s' chain' = .ok a' ∧
          (a.identity = a'.identity ∧ a.publicKey = a'.publicKey ∧ a.keyHash = a'.keyHash) ∧
          ∀ t, t = s ∨ t = s' → ∃ key, Rollup.Key.ofText chain.kind t = .ok key ∧
            key.publicKey = a.publicKey ∧ key.keyHash = a.keyHash) := by
  refine ⟨fun key => Starknet.Key.parse_eq_ok_iff, fun e => ?_, fun bytes hs => ⟨?_, ?_, ?_⟩⟩
  · rw [mapError_eq_error_iff]
    exact exists_congr fun fault => and_congr_left fun _ => Starknet.Key.parse_reports s fault
  · exact Starknet.Key.isSecret_iff_bytes
  · intro key hkey
    obtain ⟨ds, hds, hrange, rfl⟩ := Starknet.Key.parse_eq_ok_iff.mp hkey
    rw [hds.value_eq hs] at hrange ⊢
    exact ⟨rfl, Starknet.Key.val_reduce_secret hrange⟩
  · intro hs' chain chain' valid valid' hkind
    obtain ⟨e, he, he'⟩ | ⟨a, a', ha, ha', hshown⟩ :=
      map_eq_map_iff.mp (map_shown_new_eq hs hs' valid valid' hkind)
    · exact Or.inl ⟨e, he, he'⟩
    · obtain ⟨hidentity, hpublicKey, hkeyHash⟩ := Shown.mk.inj hshown
      refine Or.inr ⟨a, a', ha, ha', ⟨hidentity, hpublicKey, hkeyHash⟩, ?_⟩
      have hrollup := map_rollup_new valid s
      have hrollup' := map_rollup_new valid' s'
      rw [ha] at hrollup
      rw [ha', ← hkind] at hrollup'
      rintro t (rfl | rfl)
      · exact ⟨a.rollup, hrollup.symm, rfl, rfl⟩
      · exact ⟨a'.rollup, hrollup'.symm, hpublicKey.symm, hkeyHash.symm⟩

theorem keys_read_by_value_of_two_spellings :
    let s' := "0139FE4D6F02E666E86A6F58E65060F115CD3C185BD9E98BD829636931458F79"
    let chain' := Owner.Chain.starknet "SN_SEPOLIA" "0x1"
    Secret.Spells exampleSecret (Bytes.ofNat 32 exampleNumber) ∧
    Secret.Spells s' (Bytes.ofNat 32 exampleNumber) ∧
    Owner.Chain.exampleStarknet.validate = .ok () ∧ chain'.validate = .ok () ∧
    Owner.Chain.exampleStarknet.kind = chain'.kind ∧
    (∃ key, Starknet.Key.parse exampleSecret = .ok key ∧
      key.secret = (Bytes.ofNat 32 exampleNumber).toNat ∧
      (Stark.Felt.reduce (Bytes.ofNat 32 exampleNumber).toList).val = key.secret) ∧
    ∃ a a', new exampleSecret Owner.Chain.exampleStarknet = .ok a ∧ new s' chain' = .ok a' ∧
      (a.identity = a'.identity ∧ a.publicKey = a'.publicKey ∧ a.keyHash = a'.keyHash) ∧
      ∀ t, t = exampleSecret ∨ t = s' → ∃ key, Rollup.Key.ofText .starknet t = .ok key ∧
        key.publicKey = a.publicKey ∧ key.keyHash = a.keyHash := by
  intro s' chain'
  have hs : Secret.Spells exampleSecret (Bytes.ofNat 32 exampleNumber) :=
    Secret.parse_eq_ok_iff.mp (by decide +kernel)
  have hs' : Secret.Spells s' (Bytes.ofNat 32 exampleNumber) :=
    Secret.parse_eq_ok_iff.mp (by decide +kernel)
  obtain ⟨-, hsecret, hsigners⟩ := (keys_read_by_value exampleSecret s').2.2 _ hs
  refine ⟨hs, hs', Owner.Chain.validate_exampleStarknet, rfl, rfl, ?_, ?_⟩
  · obtain ⟨key, hkey⟩ : ∃ key, Starknet.Key.parse exampleSecret = .ok key :=
      exists_of_isOk (by decide +kernel)
    exact ⟨key, hkey, hsecret key hkey⟩
  · obtain ⟨a, ha⟩ := exists_new_exampleSecret
    obtain ⟨e, he, -⟩ | hsame := hsigners hs' Owner.Chain.exampleStarknet chain'
      Owner.Chain.validate_exampleStarknet rfl rfl
    · cases ha.symm.trans he
    · exact hsame

end Signer

end KeyChange
