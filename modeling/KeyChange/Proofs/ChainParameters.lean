import KeyChange.Bundle
import KeyChange.Proofs.FeltText
import KeyChange.Proofs.NewSigner
import KeyChange.Proofs.Signing

namespace KeyChange

namespace Stark.Felt

variable {field s : String} {e : FieldError}

theorem field_of_ofShortString (h : ofShortString field s = .error e) : e.field = field := by
  unfold ofShortString at h
  split at h
  next => cases h
  next => cases h; rfl

end Stark.Felt

namespace Owner.Chain

variable {chain : Chain}

/-- Making a digest looks at the parameters as validation does, in the same order. -/
theorem digest_eq_map_validate (chain : Chain) (text : String) :
    ∃ digest, chain.digest text = chain.validate.map fun _ => digest := by
  cases chain with
  | ethereum => exact ⟨_, rfl⟩
  | starknet chainId address =>
    simp only [digest, validate, Starknet.accountMessageHash, Starknet.accountElements]
    cases Stark.Felt.ofShortString "chainId" chainId with
    | error e => exact ⟨Bytes.zero 32, rfl⟩
    | ok x =>
      cases Stark.Felt.ofHex "address" address with
      | error e => exact ⟨Bytes.zero 32, rfl⟩
      | ok y => exact ⟨_, rfl⟩

theorem approval_eq_map_validate (chain : Chain) (keyHash : Rollup.KeyHash) (nonce account : UInt32) :
    ∃ approval, chain.approval keyHash nonce account = chain.validate.map fun _ => approval := by
  obtain ⟨digest, hdigest⟩ := chain.digest_eq_map_validate (approvalText keyHash nonce account)
  refine ⟨⟨approvalText keyHash nonce account, digest⟩, ?_⟩
  rw [approval, hdigest]
  cases chain.validate <;> rfl

theorem field_of_validate {e : FieldError} (h : chain.validate = .error e) :
    e.field = "chainId" ∨ e.field = "address" := by
  cases chain with
  | ethereum => cases h
  | starknet chainId address =>
    simp only [validate] at h
    cases hx : Stark.Felt.ofShortString "chainId" chainId with
    | error e' =>
      rw [hx] at h
      cases h
      exact Or.inl (Stark.Felt.field_of_ofShortString hx)
    | ok x =>
      rw [hx] at h
      cases hy : Stark.Felt.ofHex "address" address with
      | error e' =>
        rw [hy] at h
        cases h
        exact Or.inr (Stark.Felt.field_of_ofHex hy)
      | ok y =>
        rw [hy] at h
        cases h

end Owner.Chain

def Error.OfParameters (e : Error) : Prop :=
  ∃ (chain : Owner.Chain) (fault : FieldError), chain.validate = .error fault ∧
    e = .validation fault

theorem Error.not_ofParameters_signing (fault : SigningFault) : ¬(signing fault).OfParameters := by
  rintro ⟨chain, e, -, h⟩
  cases h

theorem Error.not_ofParameters_validation {e : FieldError} (hid : e.field ≠ "chainId")
    (haddress : e.field ≠ "address") : ¬(validation e).OfParameters := by
  rintro ⟨chain, fault, hfault, h⟩
  cases h
  exact (Owner.Chain.field_of_validate hfault).elim hid haddress

theorem Bundle.isApproved_eq_error_iff {b : Bundle} {chain : Owner.Chain} {identity : Owner.Identity}
    {e : Error} : b.isApproved chain identity = .error e ↔
      (∃ fault, Transaction.decode b.payload = .error fault ∧ e = .encoding fault) ∨
      (∃ tx, Transaction.decode b.payload = .ok tx) ∧
        ∃ fault, chain.validate = .error fault ∧ e = .validation fault := by
  unfold isApproved
  cases Transaction.decode b.payload with
  | error fault => simp [eq_comm]
  | ok tx =>
    obtain ⟨approval, happroval⟩ := chain.approval_eq_map_validate tx.keyHash tx.nonce tx.account
    simp only [happroval]
    cases chain.validate with
    | error fault => simp [Except.map, eq_comm]
    | ok _ => cases b.ownerSignature <;> simp [Except.map]

theorem Bundle.isApproved_of_no_signature {b : Bundle} {chain : Owner.Chain}
    {identity : Owner.Identity} {tx : Transaction} (hdecode : Transaction.decode b.payload = .ok tx)
    (hvalid : chain.validate = .ok ()) (hnone : b.ownerSignature = none) :
    b.isApproved chain identity = .ok false := by
  obtain ⟨approval, happroval⟩ := Owner.Chain.exists_approval hvalid tx.keyHash tx.nonce tx.account
  simp only [isApproved, hdecode, happroval, hnone]

inductive BareKey
  | ethereum (key : Ethereum.Key)
  | starknet (key : Starknet.Key)

namespace BareKey

/-- The signature of a text, where the key and the chain need not belong together. A key of Starknet
has nothing to sign on a chain without parameters. -/
def signText? (key : BareKey) (chain : Owner.Chain) (text : String) :
    Option (Except Error Owner.Signature) :=
  match key, chain with
  | .ethereum key, _ => some (((key.signMessage (utf8 text)).map .ethereum).mapError .signing)
  | .starknet key, .starknet chainId address => some do
    let hash ← (Starknet.accountMessageHash chainId address (utf8 text)).mapError Error.validation
    ((key.sign hash).map .starknet).mapError .signing
  | .starknet _, .ethereum => none

end BareKey

def OwnerKey.bare : OwnerKey → BareKey
  | .ethereum key => .ethereum key
  | .starknet key _ _ => .starknet key

theorem OwnerKey.signText?_bare (key : OwnerKey) (text : String) :
    key.bare.signText? key.chain text = some (key.signText text) := by
  cases key <;> rfl

namespace Signer

variable {s : Signer} {tx : Transaction} {op : Operation} {e : Error}

theorem signing_of_ownerSignature (hvalid : s.chain.validate = .ok ())
    (h : s.ownerSignature tx = .error e) : ∃ fault, e = .signing fault := by
  unfold ownerSignature at h
  split at h
  next x _ =>
    split at h
    next => cases h
    next => exact ⟨_, (Except.error.inj h).symm⟩
  next =>
    split at h
    next => exact ⟨_, (Except.error.inj h).symm⟩
    next =>
      obtain ⟨approval, happroval⟩ :=
        Owner.Chain.exists_approval hvalid tx.keyHash tx.nonce tx.account
      rw [happroval] at h
      obtain ⟨fault, -, he⟩ := mapError_eq_error_iff.mp h
      exact ⟨fault, he⟩

theorem not_ofParameters_of_perform (hvalid : s.chain.validate = .ok ())
    (h : s.perform tx op = .error e) : ¬e.OfParameters := by
  cases op with
  | onchain =>
    obtain ⟨-, rfl⟩ := signOnchain_eq_error_iff.mp h
    exact Error.not_ofParameters_signing _
  | approved =>
    obtain ⟨fault, rfl⟩ := signing_of_ownerSignature hvalid (signApproved_eq_error_iff.mp h)
    exact Error.not_ofParameters_signing fault
  | create2 data account =>
    obtain ⟨-, rfl⟩ := signCreate2_eq_error_iff.mp h
    exact Error.not_ofParameters_validation (by simp) (by simp)

end Signer

theorem OwnerKey.exists_signText_eq {key : OwnerKey} (hvalid : key.chain.validate = .ok ())
    (text : String) : ∃ digest, key.chain.digest text = .ok digest ∧
      key.signText text = (key.sign digest).mapError .signing := by
  obtain ⟨digest, hdigest⟩ := key.chain.digest_eq_map_validate text
  rw [hvalid] at hdigest
  refine ⟨digest, hdigest, ?_⟩
  rw [signText_eq, hdigest]
  rfl

theorem OwnerKey.not_ofParameters_of_signText {key : OwnerKey} {text : String} {e : Error}
    (hvalid : key.chain.validate = .ok ()) (h : key.signText text = .error e) :
    ¬e.OfParameters := by
  obtain ⟨digest, -, hsign⟩ := exists_signText_eq hvalid text
  rw [hsign] at h
  obtain ⟨fault, -, rfl⟩ := mapError_eq_error_iff.mp h
  exact Error.not_ofParameters_signing fault

/-- Parameters that validation accepts give a message for every transaction, and others for none, with
the error of the validation. Verification fails only on bytes that are no transaction, or else as
validation does, whatever the signatures, the data and the identity are. A signer that was made has
valid parameters and a key that belongs to them, so that none of its operations fails on them. -/
theorem validate_decides_messages (chain : Owner.Chain) :
    (∀ tx : Transaction,
      ((∃ approval, chain.approval tx.keyHash tx.nonce tx.account = .ok approval) ↔
        chain.validate = .ok ()) ∧
      ∀ e, chain.approval tx.keyHash tx.nonce tx.account = .error e ↔ chain.validate = .error e) ∧
    (∀ (b : Bundle) (identity : Owner.Identity),
      (∀ e, b.isApproved chain identity = .error e ↔
        (∃ fault, Transaction.decode b.payload = .error fault ∧ e = .encoding fault) ∨
        (∃ tx, Transaction.decode b.payload = .ok tx) ∧
          ∃ fault, chain.validate = .error fault ∧ e = .validation fault) ∧
      ∀ tx, Transaction.decode b.payload = .ok tx → chain.validate = .ok () →
        b.ownerSignature = none → b.isApproved chain identity = .ok false) ∧
    ∀ secret s, Signer.new secret chain = .ok s →
      (s.chain = chain ∧ OwnerKey.Spelled secret chain s.owner) ∧
      (∀ text, s.owner.bare.signText? chain text = some (s.owner.signText text)) ∧
      (∀ text, ∃ digest, chain.digest text = .ok digest ∧
        s.owner.signText text = (s.owner.sign digest).mapError .signing) ∧
      (∀ text e, s.owner.signText text = .error e → ¬e.OfParameters) ∧
      ∀ tx op e, s.perform tx op = .error e → ¬e.OfParameters := by
  refine ⟨fun tx => ?_, fun b identity => ⟨fun e => Bundle.isApproved_eq_error_iff, ?_⟩, ?_⟩
  · obtain ⟨approval, h⟩ := chain.approval_eq_map_validate tx.keyHash tx.nonce tx.account
    rw [h]
    cases chain.validate <;> simp [Except.map]
  · exact fun tx hdecode hvalid hnone => Bundle.isApproved_of_no_signature hdecode hvalid hnone
  · intro secret s hnew
    obtain ⟨hvalid, hspelled⟩ := Signer.new_eq_ok hnew
    obtain rfl : s.chain = chain := Signer.chain_of_new hnew
    exact ⟨⟨rfl, hspelled⟩, s.owner.signText?_bare, OwnerKey.exists_signText_eq hvalid,
      fun text e h => OwnerKey.not_ofParameters_of_signText hvalid h,
      fun tx op e h => Signer.not_ofParameters_of_perform hvalid h⟩

theorem parameters_of_exampleSecret :
    ∃ s, Signer.new Signer.exampleSecret Owner.Chain.exampleStarknet = .ok s ∧
      s.chain = Owner.Chain.exampleStarknet ∧
      (∀ text e, s.owner.signText text = .error e → ¬e.OfParameters) ∧
      ∀ tx op e, s.perform tx op = .error e → ¬e.OfParameters := by
  obtain ⟨s, hnew⟩ := Signer.exists_new_exampleSecret
  obtain ⟨-, -, hsigners⟩ := validate_decides_messages Owner.Chain.exampleStarknet
  obtain ⟨⟨hchain, -⟩, -, -, htext, hperform⟩ := hsigners Signer.exampleSecret s hnew
  exact ⟨s, hnew, hchain, htext, hperform⟩

end KeyChange
