import KeyChange.Proofs.DecimalText
import KeyChange.Proofs.Fee
import KeyChange.Proofs.HexDigits
import KeyChange.Proofs.Origin
import KeyChange.Proofs.SignatureText

namespace KeyChange

abbrev Rule := String × Prop

def FirstBroken (rules : List Rule) (field : String) : Prop :=
  ∃ before rule after, rules = before ++ (field, rule) :: after ∧ (∀ r ∈ before, r.2) ∧ ¬rule

theorem FirstBroken.append_right {rules : List Rule} {field : String} (h : FirstBroken rules field)
    (more : List Rule) : FirstBroken (rules ++ more) field := by
  obtain ⟨before, rule, after, rfl, hbefore, hrule⟩ := h
  exact ⟨before, rule, after ++ more, by simp, hbefore, hrule⟩

theorem FirstBroken.append_left {rules kept : List Rule} {field : String}
    (h : FirstBroken rules field) (hkept : ∀ r ∈ kept, r.2) : FirstBroken (kept ++ rules) field := by
  obtain ⟨before, rule, after, rfl, hbefore, hrule⟩ := h
  exact ⟨kept ++ before, rule, after, by simp, List.forall_mem_append.mpr ⟨hkept, hbefore⟩, hrule⟩

/-- There is a result if and only if all rules are kept, and an error names the first field whose rule is
broken. -/
structure Follows {α : Type} (x : Except FieldError α) (rules : List Rule) : Prop where
  ok_iff : (∃ a, x = .ok a) ↔ ∀ rule ∈ rules, rule.2
  error : ∀ e, x = .error e → FirstBroken rules e.field

namespace Follows

variable {α β : Type} {x : Except FieldError α} {f : α → Except FieldError β} {field : String}
  {rule : Prop} {rules more : List Rule}

theorem ok (a : α) : Follows (.ok a) [] :=
  ⟨by simp, by simp⟩

theorem single (hok : (∃ a, x = .ok a) ↔ rule) (herror : ∀ e, x = .error e → e.field = field) :
    Follows x [(field, rule)] := by
  refine ⟨by simpa using hok, fun e he => ?_⟩
  rw [herror e he]
  refine ⟨[], rule, [], rfl, by simp, fun hrule => ?_⟩
  obtain ⟨a, ha⟩ := hok.mpr hrule
  cases he.symm.trans ha

theorem of_reports {conditions : List (Prop × FieldError)} (hx : Reports x conditions)
    (hrule : (∀ c ∈ conditions, c.1) ↔ rule) (hfield : ∀ c ∈ conditions, c.2.field = field) :
    Follows x [(field, rule)] := by
  refine single (hx.exists_ok_iff.trans hrule) fun e he => ?_
  obtain ⟨c, hc, rfl⟩ := hx.exists_mem he
  exact hfield c hc

theorem bind (hx : Follows x rules) (hf : ∀ a, x = .ok a → Follows (f a) more) :
    Follows (x >>= f) (rules ++ more) := by
  cases h : x with
  | error e =>
    have hbroken : ¬∀ rule ∈ rules, rule.2 := by
      rw [← hx.ok_iff, h]
      simp
    constructor
    · refine iff_of_false (by simp [Bind.bind, Except.bind]) fun hall => hbroken fun rule hr => ?_
      exact hall rule (List.mem_append_left _ hr)
    · -- the first error is the outcome
      intro e' he'
      cases he'
      exact (hx.error e h).append_right more
  | ok a =>
    have hkept := hx.ok_iff.mp ⟨a, h⟩
    have hrest := hf a h
    constructor
    · rw [List.forall_mem_append, and_iff_right hkept]
      exact hrest.ok_iff
    · intro e he
      exact (hrest.error e he).append_left hkept

end Follows

def Owner.Signature.WellFormed (bytes : List UInt8) : Prop :=
  bytes.length = 65 ∧ (∃ v ∈ ([0, 1, 27, 28] : List UInt8), bytes.getLast? = some v) ∨
  bytes.length = 96 ∧ ∀ word ∈ [bytes.take 32, (bytes.drop 32).take 32, bytes.drop 64],
    ofBigEndian word < 2 ^ (251 : Nat) + 17 * 2 ^ (192 : Nat) + 1

theorem Owner.Signature.exists_toList_iff {bytes : List UInt8} :
    (∃ x : Owner.Signature, bytes = x.toList) ↔ WellFormed bytes := by
  have hcases : (∃ x : Owner.Signature, bytes = x.toList) ↔
      (∃ x : Ethereum.Signature, bytes = x.toList) ∨ ∃ x : Starknet.Signature, bytes = x.toList := by
    constructor
    · rintro ⟨x | x, h⟩
      · exact Or.inl ⟨x, h⟩
      · exact Or.inr ⟨x, h⟩
    · rintro (⟨x, h⟩ | ⟨x, h⟩)
      · exact ⟨.ethereum x, h⟩
      · exact ⟨.starknet x, h⟩
  rw [hcases, Ethereum.Signature.exists_toList_iff, Starknet.Signature.exists_toList_iff, WellFormed]

namespace Transaction

theorem checkChain_follows (chain : UInt8) :
    Follows (checkChain chain) [("chainId", chain.toNat ≤ 31)] :=
  .of_reports (checkChain_reports chain) (by simp [maxChain]) (by simp)

theorem checkAccount_follows (account : UInt32) :
    Follows (checkAccount account)
      [("accountId", account.toNat ≤ 2 ^ (24 : Nat) - 1 ∧ account.toNat ≠ 1)] :=
  .of_reports (checkAccount_reports account) (by simp [maxAccount, globalAccount]) (by simp)

theorem checkSubAccount_follows (subAccount : UInt8) :
    Follows (checkSubAccount subAccount) [("subAccountId", subAccount.toNat ≤ 31)] :=
  .of_reports (checkSubAccount_reports subAccount) (by simp [maxSubAccount]) (by simp)

theorem checkToken_follows (token : UInt32) :
    Follows (checkToken token)
      [("feeToken", token.toNat ≤ 65535 ∧ ¬(2 ≤ token.toNat ∧ token.toNat ≤ 16))] :=
  .of_reports (checkToken_reports token)
    (by simp [maxToken, firstReservedToken, lastReservedToken]) (by simp)

theorem checkNonce_follows (nonce : UInt32) :
    Follows (checkNonce nonce) [("nonce", nonce.toNat < 2 ^ (32 : Nat) - 1)] :=
  .of_reports (checkNonce_reports nonce) (by simp [nonceLimit]) (by simp)

end Transaction

theorem Hex.field_of_decodeField {field s : String} {e : FieldError}
    (h : decodeField field s = .error e) : e.field = field := by
  obtain ⟨refusal, -, rfl⟩ := mapError_eq_error_iff.mp h
  rfl

theorem Rollup.KeyHash.ofHex_follows (field s : String) :
    Follows (ofHex field s) [(field, Hex.HasDigits s 40)] := by
  refine .single ?_ fun e he => ?_
  · rw [← Hex.exists_spells_iff (n := 20)]
    simp only [ofHex_eq_ok_iff]
    constructor
    · rintro ⟨hash, h⟩
      exact ⟨hash.toList, h, hash.length_toList⟩
    · rintro ⟨bytes, h, hlen⟩
      exact ⟨⟨bytes, hlen⟩, h⟩
  · rcases bind_eq_error_iff.mp he with hfield | ⟨bytes, -, he⟩
    · exact Hex.field_of_decodeField hfield
    · split at he
      next => cases he; rfl
      next => cases he

namespace Request

theorem parseFee_follows (s : String) :
    Follows (parseFee s)
      [("fee", ∃ m e : Nat, m ≤ 2047 ∧ e ≤ 31 ∧ IsNumeral s (m * 10 ^ e))] := by
  refine .single ?_ fun e he => ?_
  · constructor
    · rintro ⟨⟨fee, packed⟩, h⟩
      obtain ⟨hs, -, -, hunpack⟩ := parseFee_eq_ok_iff.mp h
      obtain ⟨m, e, hm, he, hfee⟩ :=
        Fee.isPackable_iff.mp (Fee.isPackable_iff_exists_unpack.mpr ⟨packed, hunpack⟩)
      exact ⟨m, e, hm, he, hfee ▸ decimal?_eq_some_iff.mp hs⟩
    · rintro ⟨m, e, hm, he, hs⟩
      have hmax : m * 10 ^ e ≤ 2047 * 10 ^ (31 : Nat) :=
        Nat.mul_le_mul hm (Nat.pow_le_pow_right (by omega) he)
      let fee : Amount := ⟨m * 10 ^ e, Nat.lt_of_le_of_lt hmax (by decide)⟩
      have hpackable : Fee.isPackable fee = true := Fee.isPackable_iff.mpr ⟨m, e, hm, he, rfl⟩
      obtain ⟨data, hdata⟩ := Fee.isPackable_iff_exists_unpack.mp hpackable
      obtain ⟨packed, hpack, -, hunpack, -⟩ := Fee.exists_pack hdata
      exact ⟨(fee, packed), parseFee_eq_ok_iff.mpr
        ⟨decimal?_eq_some_iff.mpr hs, Fee.unpack_le_maximum hdata, hpack, hunpack⟩⟩
  · unfold parseFee at he
    split at he
    next => cases he; rfl
    next =>
      split at he
      next =>
        dsimp only at he
        split at he
        next => cases he; rfl
        next =>
          split at he
          next => cases he; rfl
          next =>
            split at he
            next => cases he
            next => cases he; rfl
      next => cases he; rfl

theorem parseTime_follows (time : UInt64) :
    Follows (parseTime time) [("timestamp", time.toNat < 2 ^ (32 : Nat))] := by
  refine .single ?_ fun e he => ?_
  · simp only [parseTime_eq_ok_iff]
    constructor
    · rintro ⟨t, ht⟩
      have := t.toNat_lt
      omega
    · intro h
      refine ⟨UInt32.ofNat time.toNat, ?_⟩
      rw [UInt32.toNat_ofNat']
      omega
  · unfold parseTime at he
    split at he
    next => cases he
    next => cases he; rfl

theorem field_of_parseSignature {s : String} {e : FieldError} (h : parseSignature s = .error e) :
    e.field = "layer1Signature" := by
  rcases bind_eq_error_iff.mp h with hfield | ⟨bytes, -, h⟩
  · exact Hex.field_of_decodeField hfield
  · split at h
    next =>
      split at h
      next => cases h; rfl
      next => cases h
    next =>
      split at h
      next =>
        split at h
        next => cases h; rfl
        next => cases h
      next => cases h; rfl

theorem exists_parseSignature_iff {s : String} :
    (∃ x, parseSignature s = .ok x) ↔
      ∃ bytes, Hex.Spells s bytes ∧ Owner.Signature.WellFormed bytes := by
  simp only [parseSignature_eq_ok_iff, Hex.decodePrefixed_eq_ok_iff,
    ← Owner.Signature.exists_toList_iff]
  constructor
  · rintro ⟨x, h⟩
    exact ⟨x.toList, h, x, rfl⟩
  · rintro ⟨_, h, x, rfl⟩
    exact ⟨x, h⟩

theorem parseAuthorization_follows (ownerSignature : Option String) :
    Follows (parseAuthorization ownerSignature)
      [("layer1Signature", ∀ s, ownerSignature = some s →
        ∃ bytes, Hex.Spells s bytes ∧ Owner.Signature.WellFormed bytes)] := by
  cases ownerSignature with
  | none => exact .single (by simp [parseAuthorization]) fun e he => by cases he
  | some s =>
    refine .single ?_ fun e he => ?_
    · simp [parseAuthorization, map_eq_ok_iff, ← exists_parseSignature_iff]
    · have he : (parseSignature s).map Authorization.signed = .error e := he
      cases h : parseSignature s with
      | ok x => rw [h] at he; cases he
      | error e' =>
        rw [h] at he
        cases he
        exact field_of_parseSignature h

/-- What the fields of a request have to say, in the order in which they are looked at. -/
def rules (r : Request) : List Rule := [
  ("chainId", r.chain.toNat ≤ 31),
  ("accountId", r.account.toNat ≤ 2 ^ (24 : Nat) - 1 ∧ r.account.toNat ≠ 1),
  ("subAccountId", r.subAccount.toNat ≤ 31),
  ("newPkHash", Hex.HasDigits r.keyHash 40),
  ("feeToken", r.feeToken.toNat ≤ 65535 ∧ ¬(2 ≤ r.feeToken.toNat ∧ r.feeToken.toNat ≤ 16)),
  ("fee", ∃ m e : Nat, m ≤ 2047 ∧ e ≤ 31 ∧ IsNumeral r.fee (m * 10 ^ e)),
  ("nonce", r.nonce.toNat < 2 ^ (32 : Nat) - 1),
  ("timestamp", r.time.toNat < 2 ^ (32 : Nat)),
  ("layer1Signature", ∀ s, r.ownerSignature = some s →
    ∃ bytes, Hex.Spells s bytes ∧ Owner.Signature.WellFormed bytes)]

theorem build_follows (r : Request) : Follows r.build r.rules := by
  unfold build
  refine .bind (Transaction.checkChain_follows r.chain) fun _ _ => ?_
  refine .bind (Transaction.checkAccount_follows r.account) fun _ _ => ?_
  refine .bind (Transaction.checkSubAccount_follows r.subAccount) fun _ _ => ?_
  refine .bind (Rollup.KeyHash.ofHex_follows "newPkHash" r.keyHash) fun _ _ => ?_
  refine .bind (Transaction.checkToken_follows r.feeToken) fun _ _ => ?_
  refine .bind (parseFee_follows r.fee) fun _ _ => ?_
  refine .bind (Transaction.checkNonce_follows r.nonce) fun _ _ => ?_
  refine .bind (parseTime_follows r.time) fun _ _ => ?_
  refine .bind (parseAuthorization_follows r.ownerSignature) fun _ _ => ?_
  exact .ok _

/-- The transaction has the values that the request spells. -/
structure Carries (r : Request) (tx : Transaction) : Prop where
  chain_eq : tx.chain = r.chain
  account_eq : tx.account = r.account
  subAccount_eq : tx.subAccount = r.subAccount
  spells_keyHash : Hex.Spells r.keyHash tx.keyHash.toList
  feeToken_eq : tx.feeToken.toNat = r.feeToken.toNat
  isNumeral_fee : IsNumeral r.fee tx.fee.val
  unpack_fee : Fee.unpack tx.packedFee.toList = some tx.fee
  nonce_eq : tx.nonce = r.nonce
  time_eq : tx.time.toNat = r.time.toNat
  onchain : r.ownerSignature = none → tx.authorization = .onchain
  signed : ∀ s, r.ownerSignature = some s →
    ∃ x, tx.authorization = .signed x ∧ Hex.Spells s x.toList

theorem carries_of_build {r : Request} {tx : Transaction} (h : r.build = .ok tx) :
    r.Carries tx := by
  obtain ⟨valid, hchain, haccount, hsub, hkey, htoken, hfee, hnonce, htime, hauth⟩ :=
    build_eq_ok_iff.mp h
  refine ⟨hchain, haccount, hsub, Rollup.KeyHash.ofHex_eq_ok_iff.mp hkey, htoken.symm,
    decimal?_eq_some_iff.mp (parseFee_eq_ok_iff.mp hfee).1, valid.unpack_fee, hnonce, htime.symm,
    fun hnone => ?_, fun s hs => ?_⟩
  · rw [hnone] at hauth
    exact (Except.ok.inj hauth).symm
  · rw [hs] at hauth
    obtain ⟨x, hx, hsigned⟩ := map_eq_ok_iff.mp hauth
    exact ⟨x, hsigned.symm, Hex.decodePrefixed_eq_ok_iff.mp (parseSignature_eq_ok_iff.mp hx)⟩

/-- A transaction is built if and only if every field keeps its rule, and has the values of the request.
Otherwise the error names the first field whose rule is broken. -/
theorem build_keeps_rules (r : Request) :
    ((∃ tx, r.build = .ok tx) ↔ ∀ rule ∈ r.rules, rule.2) ∧
    (∀ e, r.build = .error e → FirstBroken r.rules e.field) ∧
    ∀ tx, r.build = .ok tx → r.Carries tx :=
  ⟨(build_follows r).ok_iff, (build_follows r).error, fun _ h => carries_of_build h⟩

end Request

end KeyChange
