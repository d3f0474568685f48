import KeyChange.Owner.Chain
import KeyChange.Transaction.Request
import KeyChange.Proofs.JsonRecord

namespace KeyChange

open Json

namespace Request

theorem reads_toJson (r : Request) : Reads read 1 r.toJson r := by
  obtain ⟨chain, account, subAccount, keyHash, feeToken, fee, nonce, ownerSignature, time⟩ := r
  apply reads_record
  · cases ownerSignature <;> simp
  · intro m hm
    have hmember : m = ("chainId", .number chain.toNat) ∨ m = ("accountId", .number account.toNat) ∨
        m = ("subAccountId", .number subAccount.toNat) ∨ m = ("newPkHash", .string keyHash) ∨
        m = ("feeToken", .number feeToken.toNat) ∨ m = ("fee", .string fee) ∨
        m = ("nonce", .number nonce.toNat) ∨
        (∃ s, ownerSignature = some s ∧ m = ("layer1Signature", .string s)) ∨
        m = ("timestamp", .number time.toNat) := by
      cases ownerSignature <;> simpa [or_assoc] using hm
    rcases hmember with rfl | rfl | rfl | rfl | rfl | rfl | rfl | ⟨s, -, rfl⟩ | rfl
    · exact ⟨_, rfl, reads_required (reads_uint8 _)⟩
    · exact ⟨_, rfl, reads_required (reads_uint32 _)⟩
    · exact ⟨_, rfl, reads_required (reads_uint8 _)⟩
    · exact ⟨_, rfl, reads_required reads_string⟩
    · exact ⟨_, rfl, reads_required (reads_uint32 _)⟩
    · exact ⟨_, rfl, reads_required reads_string⟩
    · exact ⟨_, rfl, reads_required (reads_uint32 _)⟩
    · exact ⟨_, rfl, reads_optional (document_string_ne_null s) reads_string⟩
    · exact ⟨_, rfl, reads_required (reads_uint64 _)⟩
  · intro o ho
    refine (get_record_bind ho rfl (reads_uint8 chain)).trans ?_
    refine (get_record_bind ho rfl (reads_uint32 account)).trans ?_
    refine (get_record_bind ho rfl (reads_uint8 subAccount)).trans ?_
    refine (get_record_bind ho rfl reads_string).trans ?_
    refine (get_record_bind ho rfl (reads_uint32 feeToken)).trans ?_
    refine (get_record_bind ho rfl reads_string).trans ?_
    refine (get_record_bind ho rfl (reads_uint32 nonce)).trans ?_
    refine (get?_record_bind (a := ownerSignature) ho (by cases ownerSignature <;> rfl)
      document_string_ne_null fun s => reads_string).trans ?_
    refine (get_record_bind ho (by cases ownerSignature <;> rfl) (reads_uint64 time)).trans ?_
    rfl

theorem fits_toJson (r : Request) : r.toJson.Fits := by
  have hbyte (x : UInt8) : x.toNat < UInt64.size := Nat.lt_trans x.toNat_lt (by decide)
  have hword (x : UInt32) : x.toNat < UInt64.size := Nat.lt_trans x.toNat_lt (by decide)
  have htime : r.time.toNat < UInt64.size := r.time.toNat_lt
  unfold toJson
  cases r.ownerSignature <;> simp [Value.Fits, Value.MembersFit, hbyte, hword, htime]

theorem read_render (r : Request) : readFrom read r.toJson.render = .ok r :=
  readFrom_render r.fits_toJson (by decide) r.reads_toJson

end Request

namespace Owner.Chain

theorem reads_starknetFields (chainId address : String) :
    Reads (fun o d => readRecord "struct variant L1SignerType::Starknet" starknetFields o d >>=
        fun r => do
          return starknet (← r.get "chainId" readString) (← r.get "address" readString))
      1 (.object [("chainId", .string chainId), ("address", .string address)])
      (starknet chainId address) := by
  apply reads_record (n := 0) (by simp)
  · intro m hm
    simp only [List.mem_cons, List.not_mem_nil, or_false] at hm
    rcases hm with rfl | rfl
    · exact ⟨_, rfl, reads_required reads_string⟩
    · exact ⟨_, rfl, reads_required reads_string⟩
  · intro o ho
    refine (get_record_bind ho rfl reads_string).trans ?_
    refine (get_record_bind ho rfl reads_string).trans ?_
    rfl

theorem reads_toJson (chain : Chain) : Reads read 1 chain.toJson chain := by
  cases chain with
  | ethereum => exact reads_tagged (by decide) (by simp) (by simp) rfl
  | starknet chainId address =>
    refine reads_tagged (by decide) (by simp) ?_ ?_
    · intro m hm
      simp only [List.mem_cons, List.not_mem_nil, or_false] at hm
      rcases hm with rfl | rfl
      · exact reads_buffered_string
      · exact reads_buffered_string
    · -- The fields are read from what was kept of them, not from the text.
      exact reads_starknetFields chainId address .buffer trivial

theorem fits_toJson (chain : Chain) : chain.toJson.Fits := by
  cases chain <;> simp [toJson, Value.Fits, Value.MembersFit]

theorem read_render (chain : Chain) : readFrom read chain.toJson.render = .ok chain :=
  readFrom_render chain.fits_toJson (by decide) chain.reads_toJson

end Owner.Chain

/-- A request and a chain are read back from their text, so a request is built, and a chain is validated and
has its owner approve transactions, as before. -/
theorem read_back_from_text :
    (∀ r : Request, readFrom Request.read r.toJson.render = .ok r ∧
      (readFrom Request.read r.toJson.render).map Request.build = .ok r.build) ∧
    ∀ chain : Owner.Chain, readFrom Owner.Chain.read chain.toJson.render = .ok chain ∧
      (readFrom Owner.Chain.read chain.toJson.render).map Owner.Chain.validate =
        .ok chain.validate ∧
      ∀ tx : Transaction, (readFrom Owner.Chain.read chain.toJson.render).map
          (·.approval tx.keyHash tx.nonce tx.account) =
        .ok (chain.approval tx.keyHash tx.nonce tx.account) := by
  refine ⟨fun r => ⟨r.read_render, ?_⟩, fun chain => ⟨chain.read_render, ?_, fun tx => ?_⟩⟩
  · rw [r.read_render]
    rfl
  · rw [chain.read_render]
    rfl
  · rw [chain.read_render]
    rfl

end KeyChange
