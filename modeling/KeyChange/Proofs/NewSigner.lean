import KeyChange.Signer
import KeyChange.Proofs.ApprovalPreimage
import KeyChange.Proofs.SignatureText

namespace KeyChange

theorem Starknet.Key.publicKey_of_parse {s : String} {key : Starknet.Key}
    (h : parse s = .ok key) : key.publicKey = StarkEcdsa.publicKey key.secret := by
  unfold parse at h
  split at h
  next => simp at h
  next bytes _ =>
    dsimp only at h
    split at h
    next => simp at h
    next =>
      cases h
      rfl

/-- The owner's key that a secret spells, on the chain where the owner lives. -/
inductive OwnerKey.Spelled (secret : String) : Owner.Chain → OwnerKey → Prop
  | ethereum {key : Ethereum.Key} (h : Ethereum.Key.parse secret = .ok key) :
    Spelled secret .ethereum (.ethereum key)
  | starknet {key : Starknet.Key} {chainId address : String}
    (h : Starknet.Key.parse secret = .ok key) :
    Spelled secret (.starknet chainId address) (.starknet key chainId address)

namespace Signer

variable {s : Signer} {secret : String} {chain : Owner.Chain}

/-- All that a signer from a secret and a chain is known by. -/
theorem new_eq_ok (h : new secret chain = .ok s) :
    chain.validate = .ok () ∧ OwnerKey.Spelled secret chain s.owner := by
  unfold new at h
  split at h
  next => simp at h
  next hvalid =>
    refine ⟨hvalid, ?_⟩
    split at h
    next =>
      split at h
      next => simp at h
      next key hkey =>
        obtain ⟨rollup, -, rfl⟩ := map_eq_ok_iff.mp h
        exact .ethereum hkey
    next chainId address =>
      split at h
      next => simp at h
      next key hkey =>
        obtain ⟨rollup, -, rfl⟩ := map_eq_ok_iff.mp h
        exact .starknet hkey

theorem chain_of_new (h : new secret chain = .ok s) : s.chain = chain := by
  obtain ⟨-, hspelled⟩ := new_eq_ok h
  rw [Signer.chain]
  generalize s.owner = owner at hspelled ⊢
  cases hspelled <;> rfl

def exampleSecret : String :=
  "0x0139fe4d6f02e666e86a6f58e65060f115cd3c185bd9e98bd829636931458f79"

def exampleNumber : Nat := 0x0139fe4d6f02e666e86a6f58e65060f115cd3c185bd9e98bd829636931458f79

theorem exists_new_exampleSecret :
    ∃ s, new exampleSecret Owner.Chain.exampleStarknet = .ok s := by
  have hok : (new exampleSecret Owner.Chain.exampleStarknet).isOk = true := by decide +kernel
  exact exists_of_isOk hok

theorem owner_of_exampleSecret (h : new exampleSecret Owner.Chain.exampleStarknet = .ok s) :
    ∃ key chainId address, key.secret = exampleNumber ∧
      s.owner = .starknet key chainId address := by
  have hsecret : (Starknet.Key.parse exampleSecret).map (·.secret) = .ok exampleNumber := by
    decide +kernel
  obtain ⟨-, hspelled⟩ := new_eq_ok h
  generalize s.owner = owner at hspelled
  cases hspelled with
  | starknet hkey =>
    rw [hkey] at hsecret
    exact ⟨_, _, _, Except.ok.inj hsecret, rfl⟩

end Signer

theorem OwnerKey.signText_eq (key : OwnerKey) (text : String) :
    key.signText text = (key.chain.digest text).mapError .validation >>= fun digest =>
      (key.sign digest).mapError .signing := by
  cases key with
  | ethereum key =>
    rw [chain, Owner.Chain.digest, mapError_ok_bind, signText, Ethereum.Key.signMessage, sign]
  | starknet key chainId address =>
    rw [chain, Owner.Chain.digest, signText]
    cases Starknet.accountMessageHash chainId address (utf8 text) with
    | error e => rfl
    | ok hash => rw [Except.map, mapError_ok_bind, mapError_ok_bind, sign, Stark.Felt.reduce_toBytes]

theorem OwnerKey.hasSchemeOf_of_sign {key : OwnerKey} {digest : Bytes 32} {x : Owner.Signature}
    (h : key.sign digest = .ok x) : key.hasSchemeOf x = true := by
  cases key with
  | ethereum key =>
    simp only [sign] at h
    obtain ⟨y, -, rfl⟩ := map_eq_ok_iff.mp h
    rfl
  | starknet key chainId address =>
    simp only [sign] at h
    obtain ⟨y, -, rfl⟩ := map_eq_ok_iff.mp h
    rfl

end KeyChange
