import KeyChange.Starknet.Key
import KeyChange.Proofs.AccountMessage

namespace KeyChange.Starknet

open Curve Stark Pedersen

variable {chainId address : String} {m raw : List UInt8} {l : List Felt} {x y : Felt}

def piece (x : Felt) : List UInt8 := bigEndian Felt.shortLength x.val

theorem messageElements_piece_append (hx : x.val < 2 ^ (248 : Nat)) (m : List UInt8) :
    messageElements (piece x ++ m) = x :: messageElements m := by
  have hlen : (piece x).length = Felt.shortLength := length_bigEndian _ _
  have hne : piece x ≠ [] := List.ne_nil_of_length_pos (by rw [hlen]; decide)
  have hval : (Felt.reduce (piece x)).val = x.val := by
    rw [Felt.val_reduce (Nat.le_of_eq hlen), piece, ofBigEndian_bigEndian]
    exact Nat.mod_eq_of_lt hx
  rw [messageElements_append (by rw [hlen]; rfl), messageElements_piece hne (Nat.le_of_eq hlen),
    Fin.ext hval, List.singleton_append]

theorem val_reduce_lt {bs : List UInt8} (h : bs.length ≤ Felt.shortLength) :
    (Felt.reduce bs).val < 2 ^ (248 : Nat) := by
  rw [Felt.val_reduce h]
  calc ofBigEndian bs < 256 ^ bs.length := ofBigEndian_lt bs
    _ ≤ 256 ^ Felt.shortLength := Nat.pow_le_pow_right (by decide) h
    _ = 2 ^ (248 : Nat) := by decide

theorem lt_of_mem_messageElements (h : x ∈ messageElements m) : x.val < 2 ^ (248 : Nat) := by
  induction m using pieces.induct with
  | case1 => simp at h
  | case2 b bs ih =>
    rw [messageElements_cons] at h
    rcases List.mem_cons.mp h with rfl | hrest
    · exact val_reduce_lt (length_piece_le b bs)
    · exact ih hrest

/-- The message on its own that spells out the elements of an account's. -/
def imitation (chain account : Felt) (m : List UInt8) : List UInt8 :=
  piece messagePrefix ++ (piece chain ++ (piece account ++ m))

theorem messageElements_imitation (hx : x.val < 2 ^ (248 : Nat)) (hy : y.val < 2 ^ (248 : Nat))
    (m : List UInt8) :
    messageElements (imitation x y m) = messagePrefix :: x :: y :: messageElements m := by
  have hprefix : messagePrefix.val < 2 ^ (248 : Nat) := val_reduce_lt (by decide)
  rw [imitation, messageElements_piece_append hprefix, messageElements_piece_append hx,
    messageElements_piece_append hy]

theorem head?_of_agree_imitation (h : AgreeUpToPadding raw (imitation x y m)) :
    raw.head? = some 0 := by
  obtain ⟨front, last, last', rfl, himitation, -, -, hshort, -, -⟩ := h
  have hlen := congrArg List.length himitation
  simp only [imitation, piece, List.length_append, length_bigEndian, Felt.shortLength] at hlen hshort
  -- three pieces are longer than the last one, so both messages start in what they share
  have hfront : front ≠ [] := List.ne_nil_of_length_pos (by omega)
  have hhead : (piece messagePrefix).head? = some 0 := by decide
  have hpiece : piece messagePrefix ≠ [] := by
    intro hnil
    rw [hnil] at hhead
    simp at hhead
  rw [List.head?_append_of_ne_nil _ hfront, ← List.head?_append_of_ne_nil front hfront,
    ← himitation, imitation, List.head?_append_of_ne_nil _ hpiece, hhead]

theorem messageElements_eq_account_iff (hx : x.val < 2 ^ (248 : Nat)) :
    messageElements raw = messagePrefix :: x :: y :: messageElements m ↔
      y.val < 2 ^ (248 : Nat) ∧ AgreeUpToPadding raw (imitation x y m) := by
  constructor
  · intro h
    have hy : y.val < 2 ^ (248 : Nat) := lt_of_mem_messageElements (m := raw) (by simp [h])
    exact ⟨hy, messageElements_eq_iff.mp (h.trans (messageElements_imitation hx hy m).symm)⟩
  · rintro ⟨hy, hagree⟩
    rw [messageElements_eq_iff.mpr hagree, messageElements_imitation hx hy]

/-- Exactly the addresses that do not fit a piece keep an account's messages apart from those that are
hashed on their own; for every other address it is the imitations that share the elements, the hash and
the signatures. -/
theorem domains_apart_iff_long_address (h : accountElements chainId address m = .ok l) :
    ∃ x y, Felt.ofShortString "chainId" chainId = .ok x ∧ Felt.ofHex "address" address = .ok y ∧
      ((∀ raw, messageElements raw ≠ l) ↔ 2 ^ (248 : Nat) ≤ y.val) ∧
      (∀ raw, messageElements raw = l ↔
        y.val < 2 ^ (248 : Nat) ∧ AgreeUpToPadding raw (imitation x y m)) ∧
      (∀ raw, messageElements raw = l → raw.head? = some 0) ∧
      (∀ raw, raw.length < 2 ^ (64 : Nat) → m.length < 2 ^ (64 : Nat) →
        accountMessageHash chainId address m = .ok (messageHash raw) →
        messageElements raw = l ∨ Collide (hashedPairs (messageElements raw)) (hashedPairs l)) ∧
      ∀ (key : Key) raw, messageElements raw = l →
        accountMessageHash chainId address m = .ok (messageHash raw) ∧
        key.signMessage raw = key.sign (hashList l) := by
  have hhash : accountMessageHash chainId address m = .ok (hashList l) := by
    rw [accountMessageHash, h]
    rfl
  obtain ⟨x, y, hx, hy, rfl⟩ := accountElements_eq_ok_iff.mp h
  have hlow : x.val < 2 ^ (248 : Nat) := by
    obtain ⟨⟨-, hlen⟩, rfl⟩ := Felt.ofShortString_eq_ok_iff.mp hx
    exact val_reduce_lt hlen
  refine ⟨x, y, hx, hy, ?_, fun raw => messageElements_eq_account_iff hlow, ?_, ?_, ?_⟩
  · constructor
    · intro hapart
      by_contra hshort
      exact hapart _ (messageElements_imitation hlow (Nat.lt_of_not_le hshort) m)
    · intro hlong raw heq
      have hshort := (messageElements_eq_account_iff hlow).mp heq
      omega
  · intro raw heq
    exact head?_of_agree_imitation ((messageElements_eq_account_iff hlow).mp heq).2
  · intro raw hraw hm hequal
    rw [hhash] at hequal
    exact hashList_eq_or_collide (length_messageElements_lt hraw) (length_accountElements_lt h hm)
      (Except.ok.inj hequal).symm
  · intro key raw heq
    rw [hhash, Key.signMessage, messageHash, heq]
    exact ⟨rfl, rfl⟩

theorem accountElements_abc : accountElements "SN_MAIN" "0x1" (utf8 "abc") =
    .ok (messagePrefix :: Felt.reduce (utf8 "SN_MAIN") :: 1 :: messageElements (utf8 "abc")) :=
  accountElements_eq_ok_iff.mpr ⟨_, _, ofShortString_main, ofHex_one, rfl⟩

def exampleImitation : List UInt8 :=
  List.replicate 15 0 ++ utf8 "StarkNet Message" ++ List.replicate 24 0 ++ utf8 "SN_MAIN" ++
    List.replicate 30 0 ++ [1] ++ utf8 "abc"

theorem messageElements_exampleImitation : messageElements exampleImitation =
    messagePrefix :: Felt.reduce (utf8 "SN_MAIN") :: 1 :: messageElements (utf8 "abc") := by
  have himitation : exampleImitation = imitation (Felt.reduce (utf8 "SN_MAIN")) 1 (utf8 "abc") := by
    decide
  rw [himitation, messageElements_imitation (by decide) (by decide)]

/-- The signature of a message on its own that an account's message would have. -/
theorem account_message_imitated :
    ∃ l, accountElements "SN_MAIN" "0x1" (utf8 "abc") = .ok l ∧
      messageElements exampleImitation = l ∧
      accountMessageHash "SN_MAIN" "0x1" (utf8 "abc") = .ok (messageHash exampleImitation) ∧
      ∀ key : Key, key.signMessage exampleImitation = key.sign (hashList l) := by
  refine ⟨_, accountElements_abc, messageElements_exampleImitation, ?_, ?_⟩
  · rw [accountMessageHash, accountElements_abc, messageHash, messageElements_exampleImitation]
    rfl
  · intro key
    rw [Key.signMessage, messageHash, messageElements_exampleImitation]

def longAddress : Felt :=
  ⟨0x04a69b67bcabfa7d3ccb96e1d25c2e6fc93589fe24a6fd04566b8700ff97a71a, by decide⟩

theorem ofHex_longAddress : Felt.ofHex "address"
    "0x04a69b67bcabfa7d3ccb96e1d25c2e6fc93589fe24a6fd04566b8700ff97a71a" = .ok longAddress := by
  decide +kernel

theorem domains_of_two_addresses :
    (∃ l, accountElements "SN_MAIN"
        "0x04a69b67bcabfa7d3ccb96e1d25c2e6fc93589fe24a6fd04566b8700ff97a71a" (utf8 "abc") = .ok l ∧
      ∀ raw, messageElements raw ≠ l) ∧
    ∃ l, (accountElements "SN_MAIN" "0x1" (utf8 "abc") = .ok l ∧
        messageElements exampleImitation = l ∧
        exampleImitation.length < 2 ^ (64 : Nat) ∧ (utf8 "abc").length < 2 ^ (64 : Nat)) ∧
      exampleImitation.head? = some 0 ∧
      accountMessageHash "SN_MAIN" "0x1" (utf8 "abc") = .ok (messageHash exampleImitation) ∧
      (messageElements exampleImitation = l ∨
        Collide (hashedPairs (messageElements exampleImitation)) (hashedPairs l)) ∧
      ∀ key : Key, key.signMessage exampleImitation = key.sign (hashList l) := by
  constructor
  · have h := accountElements_eq_ok_iff (m := utf8 "abc") |>.mpr
      ⟨_, _, ofShortString_main, ofHex_longAddress, rfl⟩
    obtain ⟨x, y, -, hy, hapart, -⟩ := domains_apart_iff_long_address h
    obtain rfl := Except.ok.inj (hy.symm.trans ofHex_longAddress)
    exact ⟨_, h, hapart.mpr (by decide)⟩
  · obtain ⟨x, y, -, -, -, -, hhead, hcollide, hsign⟩ :=
      domains_apart_iff_long_address accountElements_abc
    have helements := messageElements_exampleImitation
    have hlen : exampleImitation.length < 2 ^ (64 : Nat) := by decide
    have hhash := (hsign ⟨1, 1⟩ _ helements).1
    exact ⟨_, ⟨accountElements_abc, helements, hlen, by decide⟩, hhead _ helements, hhash,
      hcollide _ hlen (by decide) hhash, fun key => (hsign key _ helements).2⟩

end KeyChange.Starknet
