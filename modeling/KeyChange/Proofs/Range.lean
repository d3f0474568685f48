import KeyChange.Proofs.Outcome
import KeyChange.Transaction.Layout

namespace KeyChange.Transaction

theorem checkChain_reports (chain : UInt8) :
    Reports (checkChain chain)
      [(chain.toNat ≤ maxChain, ⟨"chainId", .exceeds chain.toNat maxChain⟩)] :=
  .guard Nat.not_le.symm fun _ => .ok ()

theorem checkChain_eq_ok_iff {chain : UInt8} :
    checkChain chain = .ok () ↔ chain.toNat ≤ maxChain := by
  simpa using (checkChain_reports chain).eq_ok_iff

theorem checkAccount_reports (account : UInt32) :
    Reports (checkAccount account)
      [(account.toNat ≤ maxAccount, ⟨"accountId", .exceeds account.toNat maxAccount⟩),
        (account.toNat ≠ globalAccount, ⟨"accountId", .globalAccount⟩)] :=
  .guard Nat.not_le.symm fun _ => .guard Decidable.not_not.symm fun _ => .ok ()

theorem checkAccount_eq_ok_iff {account : UInt32} :
    checkAccount account = .ok () ↔
      account.toNat ≤ maxAccount ∧ account.toNat ≠ globalAccount := by
  simpa using (checkAccount_reports account).eq_ok_iff

theorem checkSubAccount_reports (subAccount : UInt8) :
    Reports (checkSubAccount subAccount)
      [(subAccount.toNat ≤ maxSubAccount,
        ⟨"subAccountId", .exceeds subAccount.toNat maxSubAccount⟩)] :=
  .guard Nat.not_le.symm fun _ => .ok ()

theorem checkSubAccount_eq_ok_iff {subAccount : UInt8} :
    checkSubAccount subAccount = .ok () ↔ subAccount.toNat ≤ maxSubAccount := by
  simpa using (checkSubAccount_reports subAccount).eq_ok_iff

theorem checkNonce_reports (nonce : UInt32) :
    Reports (checkNonce nonce)
      [(nonce.toNat < nonceLimit, ⟨"nonce", .notBelow nonce.toNat nonceLimit⟩)] :=
  .guard Nat.not_lt.symm fun _ => .ok ()

theorem checkNonce_eq_ok_iff {nonce : UInt32} :
    checkNonce nonce = .ok () ↔ nonce.toNat < nonceLimit := by
  simpa using (checkNonce_reports nonce).eq_ok_iff

/-- A token that passes has 16 bits, so that cutting it to them keeps its value. -/
theorem checkToken_eq_ok_iff {token : UInt32} {id : TokenId} :
    checkToken token = .ok id ↔ token.toNat = id.toNat ∧
      ¬(firstReservedToken ≤ id.toNat ∧ id.toNat ≤ lastReservedToken) := by
  have hid := id.toNat_lt
  unfold checkToken
  split
  next above =>
    have : token.toNat ≠ id.toNat := by simp only [maxToken] at above; omega
    simp [this]
  next within =>
    have hcut : (UInt16.ofNat token.toNat).toNat = token.toNat := by
      simp only [maxToken] at within
      simp
      omega
    split
    next reserved =>
      simp only [reduceCtorEq, false_iff]
      rintro ⟨h, free⟩
      rw [h] at reserved
      exact free reserved
    next free =>
      simp only [Except.ok.injEq]
      constructor
      · rintro rfl
        exact ⟨hcut.symm, by rwa [hcut]⟩
      · rintro ⟨h, _⟩
        exact UInt16.toNat_inj.mp (hcut.trans h)

theorem checkToken_reports (token : UInt32) :
    Reports (checkToken token)
      [(token.toNat ≤ maxToken, ⟨"feeToken", .exceeds token.toNat maxToken⟩),
        (¬(firstReservedToken ≤ token.toNat ∧ token.toNat ≤ lastReservedToken),
          ⟨"feeToken", .reservedToken firstReservedToken lastReservedToken⟩)] :=
  .guard Nat.not_le.symm fun _ => .guard Decidable.not_not.symm fun _ => .ok _

theorem checkToken_toUInt32_reports (token : TokenId) :
    Reports (checkToken token.toUInt32)
      [(¬(firstReservedToken ≤ token.toNat ∧ token.toNat ≤ lastReservedToken),
        ⟨"feeToken", .reservedToken firstReservedToken lastReservedToken⟩)] :=
  (checkToken_reports token.toUInt32).tail (Nat.le_of_lt_succ token.toNat_lt)

/-- The fields are in their ranges, and the fee is what its two bytes stand for. -/
structure Valid (tx : Transaction) : Prop where
  chain_le : tx.chain.toNat ≤ maxChain
  account_le : tx.account.toNat ≤ maxAccount
  account_ne : tx.account.toNat ≠ globalAccount
  subAccount_le : tx.subAccount.toNat ≤ maxSubAccount
  token_free : ¬(firstReservedToken ≤ tx.feeToken.toNat ∧ tx.feeToken.toNat ≤ lastReservedToken)
  nonce_lt : tx.nonce.toNat < nonceLimit
  unpack_fee : Fee.unpack tx.packedFee.toList = some tx.fee

@[simp] theorem valid_authorizedBy_iff {tx : Transaction} {a : Authorization} :
    (tx.authorizedBy a).Valid ↔ tx.Valid :=
  ⟨fun ⟨h₁, h₂, h₃, h₄, h₅, h₆, h₇⟩ => ⟨h₁, h₂, h₃, h₄, h₅, h₆, h₇⟩,
    fun ⟨h₁, h₂, h₃, h₄, h₅, h₆, h₇⟩ => ⟨h₁, h₂, h₃, h₄, h₅, h₆, h₇⟩⟩

end KeyChange.Transaction
