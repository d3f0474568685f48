import KeyChange.Bundle
import KeyChange.Proofs.ApprovalPreimage

namespace KeyChange

namespace Owner

inductive Kind
  | ethereum
  | starknet
deriving DecidableEq

def Chain.kind : Chain → Kind
  | .ethereum => .ethereum
  | .starknet _ _ => .starknet

def Identity.kind : Identity → Kind
  | .ethereum _ => .ethereum
  | .starknet _ => .starknet

namespace Signature

def kind : Signature → Kind
  | .ethereum _ => .ethereum
  | .starknet _ => .starknet

/-- Who signed a digest: the address that is recovered, or the key that comes with the signature. -/
inductive SignedBy (digest : Bytes 32) : Signature → Identity → Prop
  | ethereum {x : Ethereum.Signature} {address : Ethereum.Address}
    (h : x.recover digest = .ok address) : SignedBy digest (.ethereum x) (.ethereum address)
  | starknet {x : Starknet.Signature} (h : x.verify (Stark.Felt.reduce digest.toList) = true) :
    SignedBy digest (.starknet x) (.starknet x.publicKey)

variable {x : Signature} {digest : Bytes 32} {identity : Identity}

theorem verify_eq_true_iff : x.verify digest identity = true ↔ x.SignedBy digest identity := by
  constructor
  · intro h
    unfold verify at h
    split at h
    next x address =>
      split at h
      next recovered hrecover =>
        rw [← of_decide_eq_true h]
        exact .ethereum hrecover
      next => simp at h
    next x publicKey =>
      rw [Bool.and_eq_true, decide_eq_true_eq] at h
      obtain ⟨rfl, hverify⟩ := h
      exact .starknet hverify
    next => simp at h
  · intro h
    cases h with
    | ethereum hrecover => simp only [verify, hrecover, decide_true]
    | starknet hverify => simp only [verify, hverify, decide_true, Bool.and_self]

theorem SignedBy.kind_eq (h : x.SignedBy digest identity) : x.kind = identity.kind := by
  cases h <;> rfl

end Signature

end Owner

namespace Bundle

open Owner

variable {b : Bundle} {chain : Owner.Chain} {identity : Owner.Identity}

theorem isApproved_eq_true_iff :
    b.isApproved chain identity = .ok true ↔ ∃ tx approval x,
      Transaction.decode b.payload = .ok tx ∧
      chain.approval tx.keyHash tx.nonce tx.account = .ok approval ∧
      b.ownerSignature = some x ∧ x.SignedBy approval.digest identity := by
  constructor
  · intro h
    unfold isApproved at h
    split at h
    next => simp at h
    next tx hdecode =>
      split at h
      next => simp at h
      next approval happroval =>
        split at h
        next => simp at h
        next x hx =>
          have hverify := Owner.Signature.verify_eq_true_iff.mp (Except.ok.inj h)
          exact ⟨tx, approval, x, hdecode, happroval, hx, hverify⟩
  · rintro ⟨tx, approval, x, hdecode, happroval, hx, hsigned⟩
    have hverify := Owner.Signature.verify_eq_true_iff.mpr hsigned
    simp only [isApproved, hdecode, happroval, hx, hverify]

/-- The bundle shows a signature of another chain's scheme that signs the approval for the chain. -/
def Crosses (b : Bundle) (chain : Owner.Chain) : Prop :=
  ∃ tx approval x identity, Transaction.decode b.payload = .ok tx ∧
    chain.approval tx.keyHash tx.nonce tx.account = .ok approval ∧
    b.ownerSignature = some x ∧ x.SignedBy approval.digest identity ∧ x.kind ≠ chain.kind

/-- An approval that is found is of the scheme of the identity. It is bound to the chain that it is
asked for if and only if the bundle shows no signature of another chain's scheme over its digest. -/
theorem approval_bound_to_chain_iff (b : Bundle) (chain : Owner.Chain) :
    (∀ identity, b.isApproved chain identity = .ok true →
      ∃ x, b.ownerSignature = some x ∧ x.kind = identity.kind) ∧
    ((∀ identity, b.isApproved chain identity = .ok true →
      ∃ x, b.ownerSignature = some x ∧ x.kind = chain.kind ∧ identity.kind = chain.kind) ↔
      ¬b.Crosses chain) := by
  constructor
  · intro identity h
    obtain ⟨tx, approval, x, -, -, hx, hsigned⟩ := isApproved_eq_true_iff.mp h
    exact ⟨x, hx, hsigned.kind_eq⟩
  · constructor
    · rintro bound ⟨tx, approval, x, identity, hdecode, happroval, hx, hsigned, hne⟩
      have happroved : b.isApproved chain identity = .ok true :=
        isApproved_eq_true_iff.mpr ⟨tx, approval, x, hdecode, happroval, hx, hsigned⟩
      obtain ⟨y, hy, hkind, -⟩ := bound identity happroved
      obtain rfl : x = y := Option.some.inj (hx.symm.trans hy)
      exact hne hkind
    · intro hcrosses identity h
      obtain ⟨tx, approval, x, hdecode, happroval, hx, hsigned⟩ := isApproved_eq_true_iff.mp h
      by_cases hkind : x.kind = chain.kind
      · exact ⟨x, hx, hkind, hsigned.kind_eq.symm.trans hkind⟩
      · exact absurd ⟨tx, approval, x, identity, hdecode, happroval, hx, hsigned, hkind⟩ hcrosses

def exampleHash : Stark.Felt :=
  ⟨0x03b6aaa659819220a94e28ed7e4d9eece726a08eedd6ba2dadf1ae84d2343d9e, by decide⟩

def exampleDigest : Bytes 32 :=
  Bytes.ofNat 32 0x3cc7721fc80cca964609b141341c795ce1c2d2662e76efa033d9b80151ba1acd

theorem approval_exampleStarknet :
    let tx := Transaction.exampleTransaction 0x01 0x40 10
    Chain.exampleStarknet.approval tx.keyHash tx.nonce tx.account =
      .ok ⟨approvalText tx.keyHash tx.nonce tx.account, Stark.Felt.toBytes exampleHash⟩ := by
  decide +kernel

theorem approval_exampleEthereum :
    let tx := Transaction.exampleTransaction 0x01 0x40 10
    Chain.ethereum.approval tx.keyHash tx.nonce tx.account =
      .ok ⟨approvalText tx.keyHash tx.nonce tx.account, exampleDigest⟩ := by
  decide +kernel

def ethereumOverHash : Ethereum.Signature where
  r := Bytes.ofNat 32 0x23bc8e5b98ece798f1b218f1115961f4b1b53d58f34bb0ee6df046b34b0a199b
  s := Bytes.ofNat 32 0x295e5e9fe692c197c84cfa494c90dff13e984caae7b515efda2255660950d24d
  v := ⟨false, true⟩

def starknetOverDigest : Starknet.Signature where
  publicKey := ⟨0x02c5dbad71c92a45cc4b40573ae661f8147869a91d57b8d9b8f48c8af7f83159, by decide⟩
  r := ⟨0x04c11b5d1863369ffbb2e209f2fd1d3c24e636b01fd58d3aaa312f7fbb0f8df0, by decide⟩
  s := ⟨0x079d8a8c29f4d67125a41e377dca0ac4af69e027409fe800aa7654169e0e4bf6, by decide⟩

/-- A signature of either scheme is found to approve the transaction for the other chain. -/
theorem approval_found_for_other_chain :
    let ethereum : Bundle := ⟨Transaction.exampleBytes 0x01 0x40,
      ⟨Bytes.zero 32, Bytes.zero 64⟩, some (.ethereum ethereumOverHash), none⟩
    let starknet : Bundle := ⟨Transaction.exampleBytes 0x01 0x40,
      ⟨Bytes.zero 32, Bytes.zero 64⟩, some (.starknet starknetOverDigest), none⟩
    (ethereum.isApproved Chain.exampleStarknet
      (.ethereum (Bytes.ofNat 20 0xdec58607c3f5a0f8bc51ca50cc2578ab282865fc)) = .ok true ∧
      ethereum.Crosses Chain.exampleStarknet) ∧
    starknet.isApproved .ethereum (.starknet starknetOverDigest.publicKey) = .ok true ∧
      starknet.Crosses .ethereum := by
  intro ethereum starknet
  have hdecode : Transaction.decode (Transaction.exampleBytes 0x01 0x40) =
      .ok (Transaction.exampleTransaction 0x01 0x40 10) := rfl
  have hrecover : ethereumOverHash.recover (Stark.Felt.toBytes exampleHash) =
      .ok (Bytes.ofNat 20 0xdec58607c3f5a0f8bc51ca50cc2578ab282865fc) := by decide +kernel
  have hverify : starknetOverDigest.verify (Stark.Felt.reduce exampleDigest.toList) = true := by
    decide +kernel
  refine ⟨⟨?_, ?_⟩, ?_, ?_⟩
  · exact isApproved_eq_true_iff.mpr
      ⟨_, _, _, hdecode, approval_exampleStarknet, rfl, .ethereum hrecover⟩
  · exact ⟨_, _, _, _, hdecode, approval_exampleStarknet, rfl, .ethereum hrecover, by decide⟩
  · exact isApproved_eq_true_iff.mpr
      ⟨_, _, _, hdecode, approval_exampleEthereum, rfl, .starknet hverify⟩
  · exact ⟨_, _, _, _, hdecode, approval_exampleEthereum, rfl, .starknet hverify, by decide⟩

end Bundle

end KeyChange
