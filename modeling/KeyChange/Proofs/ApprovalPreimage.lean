import KeyChange.Proofs.ApprovalText
import KeyChange.Proofs.MessageElements
import KeyChange.Proofs.Origin

namespace KeyChange

theorem length_numeral_mono {m n : Nat} (h : m ≤ n) :
    (Nat.toDigits 10 m).length ≤ (Nat.toDigits 10 n).length := by
  have hpos : 0 < (Nat.toDigits 10 n).length := Nat.length_toDigits_pos
  have hn := (Nat.length_toDigits_le_iff (b := 10) (n := n) (by decide) hpos).mp (Nat.le_refl _)
  exact (Nat.length_toDigits_le_iff (by decide) hpos).mpr (Nat.lt_of_le_of_lt h hn)

theorem length_utf8_toString (n : Nat) :
    (utf8 (toString n)).length = (Nat.toDigits 10 n).length := by
  have hascii : ∀ c ∈ (toString n).toList, c.toNat < 128 := by
    intro c hc
    rw [Nat.toString_eq_repr, Nat.toList_repr] at hc
    have := isDigit_of_mem_numeral hc
    simp only [Char.isDigit, Bool.and_eq_true, decide_eq_true_eq] at this
    exact Nat.lt_of_le_of_lt (UInt32.le_iff_toNat_le.mp this.2) (by decide)
  rw [utf8_of_ascii hascii, List.length_map, Nat.toString_eq_repr, Nat.toList_repr]

/-- A longer message makes a longer payload, so the length in front can be told from the message. -/
theorem Ethereum.payload_injective {xs ys : List UInt8} (h : payload xs = payload ys) : xs = ys := by
  have hlength : xs.length = ys.length := by
    have h := congrArg List.length h
    simp only [payload, List.length_append, length_utf8_toString] at h
    rcases Nat.le_total xs.length ys.length with hle | hle
    · have := length_numeral_mono hle
      omega
    · have := length_numeral_mono hle
      omega
  exact (List.append_inj' h hlength).2

namespace Owner

inductive Preimage
  | payload (bytes : List UInt8)
  | elements (list : List Stark.Felt)

def Preimage.digest : Preimage → Bytes 32
  | .payload bytes => Keccak.digest bytes
  | .elements list => Stark.Felt.toBytes (Pedersen.hashList list)

namespace Chain

variable {chain : Chain}

/-- What is hashed for a text on the chain. -/
def preimage (chain : Chain) (text : String) : Except FieldError Preimage :=
  match chain with
  | .ethereum => .ok (.payload (Ethereum.payload (utf8 text)))
  | .starknet chainId address =>
    (Starknet.accountElements chainId address (utf8 text)).map .elements

theorem digest_eq (chain : Chain) (text : String) :
    chain.digest text = (chain.preimage text).map Preimage.digest := by
  cases chain with
  | ethereum => rfl
  | starknet chainId address =>
    simp only [digest, preimage, Starknet.accountMessageHash]
    cases Starknet.accountElements chainId address (utf8 text) <;> rfl

theorem validate_starknet_eq_ok_iff {chainId address : String} :
    (starknet chainId address).validate = .ok () ↔
      ∃ x y, Stark.Felt.ofShortString "chainId" chainId = .ok x ∧
        Stark.Felt.ofHex "address" address = .ok y := by
  simp only [validate]
  cases hx : Stark.Felt.ofShortString "chainId" chainId with
  | error e => simp
  | ok x =>
    cases hy : Stark.Felt.ofHex "address" address with
    | error e => simp [Except.map]
    | ok y => simp [Except.map]

theorem preimage_starknet {chainId address : String} {x y : Stark.Felt}
    (hx : Stark.Felt.ofShortString "chainId" chainId = .ok x)
    (hy : Stark.Felt.ofHex "address" address = .ok y) (text : String) :
    (starknet chainId address).preimage text =
      .ok (.elements (Starknet.messagePrefix :: x :: y ::
        Starknet.messageElements (utf8 text))) := by
  simp only [preimage, Starknet.accountElements, hx, hy]
  rfl

/-- With parameters that pass validation every text has a preimage, and texts without zero bytes
are told apart by it. -/
theorem exists_preimage (valid : chain.validate = .ok ()) :
    ∃ f : String → Preimage, (∀ text, chain.preimage text = .ok (f text)) ∧
      ∀ s t, 0 ∉ utf8 s → 0 ∉ utf8 t → f s = f t → s = t := by
  cases chain with
  | ethereum =>
    refine ⟨fun text => .payload (Ethereum.payload (utf8 text)), fun _ => rfl, ?_⟩
    intro s t _ _ h
    exact utf8_injective (Ethereum.payload_injective (Preimage.payload.inj h))
  | starknet chainId address =>
    obtain ⟨x, y, hx, hy⟩ := validate_starknet_eq_ok_iff.mp valid
    refine ⟨_, preimage_starknet hx hy, ?_⟩
    intro s t hs ht h
    have helements := (List.cons.inj (List.cons.inj (List.cons.inj (Preimage.elements.inj h)).2).2).2
    exact utf8_injective (Starknet.eq_of_messageElements_eq hs ht helements)

theorem approval_eq_ok_iff {keyHash : Rollup.KeyHash} {nonce account : UInt32}
    {approval : Approval} : chain.approval keyHash nonce account = .ok approval ↔
      approval.text = approvalText keyHash nonce account ∧
      chain.digest approval.text = .ok approval.digest := by
  rw [Chain.approval, map_eq_ok_iff]
  constructor
  · rintro ⟨digest, hdigest, rfl⟩
    exact ⟨rfl, hdigest⟩
  · rintro ⟨htext, hdigest⟩
    rw [htext] at hdigest
    exact ⟨approval.digest, hdigest, by rw [← htext]⟩

theorem exists_approval (valid : chain.validate = .ok ()) (keyHash : Rollup.KeyHash)
    (nonce account : UInt32) :
    ∃ approval, chain.approval keyHash nonce account = .ok approval := by
  obtain ⟨f, hf, -⟩ := exists_preimage valid
  rw [Chain.approval, digest_eq, hf]
  exact ⟨_, rfl⟩

/-- An approval binds the key, the nonce and the account, and nothing else. -/
theorem approval_preimage_eq_iff (valid : chain.validate = .ok ()) (a b : Transaction) :
    ∃ p q, chain.preimage (approvalText a.keyHash a.nonce a.account) = .ok p ∧
      chain.preimage (approvalText b.keyHash b.nonce b.account) = .ok q ∧
      (chain.approval a.keyHash a.nonce a.account).map (·.digest) = .ok p.digest ∧
      (chain.approval b.keyHash b.nonce b.account).map (·.digest) = .ok q.digest ∧
      (p = q ↔ a.keyHash = b.keyHash ∧ a.nonce = b.nonce ∧ a.account = b.account) := by
  obtain ⟨f, hf, hinj⟩ := exists_preimage valid
  have hdigest (t : Transaction) : (chain.approval t.keyHash t.nonce t.account).map (·.digest) =
      .ok (f (approvalText t.keyHash t.nonce t.account)).digest := by
    rw [approval, digest_eq, hf]
    rfl
  refine ⟨_, _, hf _, hf _, hdigest a, hdigest b, ?_⟩
  rw [← approvalText_eq_iff]
  constructor
  · exact hinj _ _ zero_notMem_utf8_approvalText zero_notMem_utf8_approvalText
  · exact congrArg f

def exampleStarknet : Chain :=
  .starknet "SN_MAIN" "0x04a69b67bcabfa7d3ccb96e1d25c2e6fc93589fe24a6fd04566b8700ff97a71a"

theorem validate_exampleStarknet : exampleStarknet.validate = .ok () := rfl

theorem approval_preimage_of_two_fees :
    let chain := exampleStarknet
    let a := Transaction.exampleTransaction 0x0c 0x80 100
    let b := Transaction.exampleTransaction 0x01 0x40 10
    chain.validate = .ok () ∧
    ∃ p q, chain.preimage (approvalText a.keyHash a.nonce a.account) = .ok p ∧
      chain.preimage (approvalText b.keyHash b.nonce b.account) = .ok q ∧
      (chain.approval a.keyHash a.nonce a.account).map (·.digest) = .ok p.digest ∧
      (chain.approval b.keyHash b.nonce b.account).map (·.digest) = .ok q.digest ∧
      (p = q ↔ a.keyHash = b.keyHash ∧ a.nonce = b.nonce ∧ a.account = b.account) :=
  ⟨validate_exampleStarknet, approval_preimage_eq_iff validate_exampleStarknet _ _⟩

end Chain

end Owner

end KeyChange
