import KeyChange.Proofs.ApprovalText
import KeyChange.Proofs.MessageElements
import KeyChange.Proofs.PedersenChain

namespace KeyChange

/-- The text from the first character on that is not NUL. -/
def unpadded (s : String) : String := String.ofList (s.toList.dropWhile (· = '\x00'))

theorem head?_utf8EncodeChar_ne {c : Char} (h : c ≠ '\x00') (rest : List UInt8) :
    (String.utf8EncodeChar c ++ rest).head? ≠ some 0 := by
  have hchar : utf8 (String.ofList [c]) = String.utf8EncodeChar c := by simp [utf8]
  have hzero : 0 ∉ String.utf8EncodeChar c := by
    rw [← hchar]
    exact zero_notMem_utf8 (by simpa using h.symm)
  rw [List.head?_append_of_ne_nil _ String.utf8EncodeChar_ne_nil]
  exact fun hhead => hzero (List.mem_of_head? hhead)

theorem significant_utf8 (s : String) : significant (utf8 s) = utf8 (unpadded s) := by
  rw [utf8, utf8, unpadded, String.toList_ofList]
  induction s.toList with
  | nil => rfl
  | cons c cs ih =>
    by_cases hc : c = '\x00'
    · have hbyte : String.utf8EncodeChar '\x00' = [0] := rfl
      rw [hc, List.flatMap_cons, hbyte, List.singleton_append, significant_zero_cons, ih,
        List.dropWhile_cons_of_pos rfl]
    · rw [List.dropWhile_cons_of_neg (by simpa using hc), List.flatMap_cons,
        significant_eq_self (head?_utf8EncodeChar_ne hc _)]

theorem eq_of_unpadded_eq {s t : String} (hlen : s.length = t.length)
    (h : unpadded s = unpadded t) : s = t := by
  have hparts (u : String) : ∃ n, u.toList = List.replicate n '\x00' ++ (unpadded u).toList := by
    have hzeros : ∀ c ∈ u.toList.takeWhile (· = '\x00'), c = '\x00' := by
      intro c hc
      simpa using List.all_eq_true.mp List.all_takeWhile c hc
    refine ⟨(u.toList.takeWhile (· = '\x00')).length, ?_⟩
    rw [unpadded, String.toList_ofList, ← List.eq_replicate_of_mem hzeros,
      List.takeWhile_append_dropWhile]
  obtain ⟨n, hs⟩ := hparts s
  obtain ⟨k, ht⟩ := hparts t
  have hcount := congrArg List.length hs
  have hcount' := congrArg List.length ht
  simp only [List.length_append, List.length_replicate, String.length_toList] at hcount hcount'
  rw [h] at hs hcount
  -- what is left is the same, so as many characters were dropped
  have hsame : n = k := by omega
  rw [← String.toList_inj, hs, ht, hsame]

theorem Stark.Felt.ofShortString_eq_ok_iff {field s : String} {x : Felt} :
    ofShortString field s = .ok x ↔
      (s.toList.all (·.toNat < 128) ∧ (utf8 s).length ≤ shortLength) ∧ reduce (utf8 s) = x := by
  unfold ofShortString
  split
  next h => simp only [Except.ok.injEq, h, true_and]
  next h => simp only [reduceCtorEq, h, false_and]

theorem Stark.Felt.ofShortString_inj {field s t : String} {x y : Felt}
    (hs : ofShortString field s = .ok x) (ht : ofShortString field t = .ok y) :
    x = y ↔ unpadded s = unpadded t := by
  obtain ⟨⟨-, hlen⟩, rfl⟩ := ofShortString_eq_ok_iff.mp hs
  obtain ⟨⟨-, hlen'⟩, rfl⟩ := ofShortString_eq_ok_iff.mp ht
  rw [reduce_eq_iff hlen hlen', significant_utf8, significant_utf8]
  exact ⟨utf8_injective, congrArg utf8⟩

namespace Starknet

open Stark Pedersen

variable {chainId chainId' address address' : String} {m m' : List UInt8} {l l' : List Felt}

theorem accountElements_eq_ok_iff : accountElements chainId address m = .ok l ↔
    ∃ x y, Felt.ofShortString "chainId" chainId = .ok x ∧ Felt.ofHex "address" address = .ok y ∧
      messagePrefix :: x :: y :: messageElements m = l := by
  unfold accountElements
  split
  next hx => simp [hx]
  next hx =>
    split
    next hy => simp [hy]
    next hy => simp [hx, hy]

theorem accountElements_inj (h : accountElements chainId address m = .ok l)
    (h' : accountElements chainId' address' m' = .ok l') :
    l = l' ↔ unpadded chainId = unpadded chainId' ∧
      Felt.ofHex "address" address = Felt.ofHex "address" address' ∧ AgreeUpToPadding m m' := by
  obtain ⟨x, y, hx, hy, rfl⟩ := accountElements_eq_ok_iff.mp h
  obtain ⟨x', y', hx', hy', rfl⟩ := accountElements_eq_ok_iff.mp h'
  rw [← Felt.ofShortString_inj hx hx', ← messageElements_eq_iff, hy, hy']
  simp

theorem accountElements_inj_of_length_eq (h : accountElements chainId address m = .ok l)
    (h' : accountElements chainId' address' m' = .ok l') (hchain : chainId.length = chainId'.length)
    (hlen : m.length = m'.length) :
    l = l' ↔ chainId = chainId' ∧ Felt.ofHex "address" address = Felt.ofHex "address" address' ∧
      m = m' := by
  rw [accountElements_inj h h']
  constructor
  · rintro ⟨hid, haddress, hmessage⟩
    exact ⟨eq_of_unpadded_eq hchain hid, haddress, hmessage.eq_of_length_eq hlen⟩
  · rintro ⟨rfl, haddress, rfl⟩
    exact ⟨rfl, haddress, messageElements_eq_iff.mp rfl⟩

theorem length_messageElements_le (m : List UInt8) : (messageElements m).length ≤ m.length := by
  induction m using pieces.induct with
  | case1 => simp
  | case2 b bs ih =>
    rw [messageElements_cons]
    simp only [List.length_cons, List.length_drop] at ih ⊢
    omega

/-- A list has room in the field for its length where the message has room in a memory. -/
theorem length_messageElements_lt (h : m.length < 2 ^ (64 : Nat)) :
    (messageElements m).length < modulus := by
  have hle := length_messageElements_le m
  have hroom : 2 ^ (64 : Nat) < modulus := by decide
  omega

theorem length_accountElements_lt (h : accountElements chainId address m = .ok l)
    (hm : m.length < 2 ^ (64 : Nat)) : l.length < modulus := by
  obtain ⟨x, y, -, -, rfl⟩ := accountElements_eq_ok_iff.mp h
  have hle := length_messageElements_le m
  have hroom : 2 ^ (64 : Nat) + 3 < modulus := by decide
  simp only [List.length_cons]
  omega

theorem eq_or_collide_of_accountMessageHash_eq (h : accountElements chainId address m = .ok l)
    (h' : accountElements chainId' address' m' = .ok l') (hm : m.length < 2 ^ (64 : Nat))
    (hm' : m'.length < 2 ^ (64 : Nat))
    (hhash : accountMessageHash chainId address m = accountMessageHash chainId' address' m') :
    l = l' ∨ Collide (hashedPairs l) (hashedPairs l') := by
  rw [accountMessageHash, accountMessageHash, h, h'] at hhash
  exact hashList_eq_or_collide (length_accountElements_lt h hm) (length_accountElements_lt h' hm')
    (Except.ok.inj hhash)

/-- The elements keep all of a message, and of a chain id, an account and a message, but padding; and
so does a hash, unless pairs collide. -/
theorem elements_eq_iff_up_to_padding :
    (∀ m m' : List UInt8,
      (messageElements m = messageElements m' ↔ AgreeUpToPadding m m') ∧
      (m.length = m'.length → (messageElements m = messageElements m' ↔ m = m')) ∧
      (m.length < 2 ^ (64 : Nat) → m'.length < 2 ^ (64 : Nat) → messageHash m = messageHash m' →
        AgreeUpToPadding m m' ∨
          Collide (hashedPairs (messageElements m)) (hashedPairs (messageElements m')))) ∧
    ∀ chainId chainId' address address' m m' l l',
      accountElements chainId address m = .ok l → accountElements chainId' address' m' = .ok l' →
      (l = l' ↔ unpadded chainId = unpadded chainId' ∧
        Felt.ofHex "address" address = Felt.ofHex "address" address' ∧ AgreeUpToPadding m m') ∧
      (chainId.length = chainId'.length → m.length = m'.length →
        (l = l' ↔ chainId = chainId' ∧
          Felt.ofHex "address" address = Felt.ofHex "address" address' ∧ m = m')) ∧
      (m.length < 2 ^ (64 : Nat) → m'.length < 2 ^ (64 : Nat) →
        accountMessageHash chainId address m = accountMessageHash chainId' address' m' →
        l = l' ∨ Collide (hashedPairs l) (hashedPairs l')) := by
  refine ⟨fun m m' => ⟨messageElements_eq_iff, ?_, ?_⟩, ?_⟩
  · intro hlen
    exact ⟨fun h => (messageElements_eq_iff.mp h).eq_of_length_eq hlen, congrArg messageElements⟩
  · intro hm hm' hhash
    rw [← messageElements_eq_iff]
    exact hashList_eq_or_collide (length_messageElements_lt hm) (length_messageElements_lt hm') hhash
  · intro chainId chainId' address address' m m' l l' h h'
    exact ⟨accountElements_inj h h', accountElements_inj_of_length_eq h h',
      eq_or_collide_of_accountMessageHash_eq h h'⟩

theorem ofShortString_main :
    Felt.ofShortString "chainId" "SN_MAIN" = .ok (Felt.reduce (utf8 "SN_MAIN")) := rfl

theorem ofHex_one : Felt.ofHex "address" "0x1" = .ok 1 := rfl

theorem messageElements_zero : messageElements [0] = messageElements [0, 0] :=
  messageElements_eq_iff.mpr ⟨[], [0], [0, 0], by decide⟩

/-- Zero bytes in front of a short message and NUL in front of a chain id do not show. -/
theorem padding_lost_in_elements :
    ([0] : List UInt8) ≠ [0, 0] ∧ messageElements [0] = messageElements [0, 0] ∧
    messageHash [0] = messageHash [0, 0] ∧
    "SN_MAIN" ≠ "\x00SN_MAIN" ∧ ∃ l, accountElements "SN_MAIN" "0x1" [0x61] = .ok l ∧
      accountElements "\x00SN_MAIN" "0x1" [0x61] = .ok l := by
  refine ⟨by decide, messageElements_zero, congrArg hashList messageElements_zero, by decide, ?_⟩
  have hpadded : Felt.ofShortString "chainId" "\x00SN_MAIN" = .ok (Felt.reduce (utf8 "SN_MAIN")) :=
    rfl
  exact ⟨_, accountElements_eq_ok_iff.mpr ⟨_, _, ofShortString_main, ofHex_one, rfl⟩,
    accountElements_eq_ok_iff.mpr ⟨_, _, hpadded, ofHex_one, rfl⟩⟩

theorem elements_of_two_spellings :
    (messageHash [0] = messageHash [0, 0] ∧
      (AgreeUpToPadding [0] [0, 0] ∨
        Collide (hashedPairs (messageElements [0])) (hashedPairs (messageElements [0, 0])))) ∧
    (messageElements [0, 1] = messageElements [1, 0] ↔ ([0, 1] : List UInt8) = [1, 0]) ∧
    ∃ l l', (accountElements "SN_MAIN" "0x1" [0, 1] = .ok l ∧
        accountElements "SN_MAIN" "0x01" [0, 1] = .ok l' ∧
        accountMessageHash "SN_MAIN" "0x1" [0, 1] = accountMessageHash "SN_MAIN" "0x01" [0, 1]) ∧
      (l = l' ↔ unpadded "SN_MAIN" = unpadded "SN_MAIN" ∧
        Felt.ofHex "address" "0x1" = Felt.ofHex "address" "0x01" ∧
        AgreeUpToPadding [0, 1] [0, 1]) ∧
      (l = l' ↔ "SN_MAIN" = "SN_MAIN" ∧
        Felt.ofHex "address" "0x1" = Felt.ofHex "address" "0x01" ∧
        ([0, 1] : List UInt8) = [0, 1]) ∧
      (l = l' ∨ Collide (hashedPairs l) (hashedPairs l')) := by
  obtain ⟨hmessages, haccounts⟩ := elements_eq_iff_up_to_padding
  have hlonger : Felt.ofHex "address" "0x01" = .ok 1 := rfl
  have h := accountElements_eq_ok_iff (m := [0, 1]) |>.mpr
    ⟨_, _, ofShortString_main, ofHex_one, rfl⟩
  have h' := accountElements_eq_ok_iff (m := [0, 1]) |>.mpr
    ⟨_, _, ofShortString_main, hlonger, rfl⟩
  have hhash : accountMessageHash "SN_MAIN" "0x1" [0, 1] =
      accountMessageHash "SN_MAIN" "0x01" [0, 1] := by
    rw [accountMessageHash, accountMessageHash, h, h']
  obtain ⟨hiff, hsame, hcollide⟩ := haccounts _ _ _ _ _ _ _ _ h h'
  have hzero : messageHash [0] = messageHash [0, 0] := congrArg hashList messageElements_zero
  exact ⟨⟨hzero, (hmessages [0] [0, 0]).2.2 (by decide) (by decide) hzero⟩,
    (hmessages [0, 1] [1, 0]).2.1 rfl, _, _, ⟨h, h', hhash⟩, hiff, hsame rfl rfl,
    hcollide (by decide) (by decide) hhash⟩

end Starknet

end KeyChange
