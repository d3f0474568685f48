import Mathlib.Data.List.Basic
import KeyChange.Owner.Chain
import KeyChange.Proofs.HexText

namespace KeyChange

theorem utf8_injective {s t : String} (h : utf8 s = utf8 t) : s = t := by
  have hbytes (u : String) : u.toByteArray = (utf8 u).toByteArray := by
    rw [utf8, ← List.utf8Encode, ← String.toByteArray_ofList, String.ofList_toList]
  rw [← String.toByteArray_inj, hbytes, hbytes, h]

theorem utf8_of_ascii {s : String} (h : ∀ c ∈ s.toList, c.toNat < 128) :
    utf8 s = s.toList.map fun c => UInt8.ofNat c.toNat := by
  have hchar (c : Char) (hc : c.toNat < 128) :
      String.utf8EncodeChar c = [UInt8.ofNat c.toNat] := by
    rw [String.utf8EncodeChar]
    exact if_pos (Nat.le_of_lt_succ hc)
  rw [utf8, List.flatMap_congr fun c hc => hchar c (h c hc)]
  exact List.map_eq_flatMap.symm

theorem zero_notMem_utf8 {s : String} (h : '\x00' ∉ s.toList) : 0 ∉ utf8 s := by
  intro hmem
  obtain ⟨c, hc, hzero⟩ := List.mem_flatMap.mp hmem
  have hcode : c.val.toNat ≠ 0 := by
    intro hcode
    have hnull : c = '\x00' := Char.ext (UInt32.toNat_inj.mp hcode)
    exact h (hnull ▸ hc)
  have hbyte (n : Nat) (hn : n % 256 ≠ 0) : (0 : UInt8) ≠ UInt8.ofNat n := by
    intro heq
    have := congrArg UInt8.toNat heq
    simp at this
    omega
  -- the first byte is the code or has its highest bits set, and so have the bytes after it
  unfold String.utf8EncodeChar at hzero
  dsimp only at hzero
  split at hzero
  next => exact hbyte _ (by omega) (List.mem_singleton.mp hzero)
  next =>
    split at hzero
    next =>
      rcases List.mem_pair.mp hzero with heq | heq <;> exact hbyte _ (by omega) heq
    next =>
      split at hzero
      next =>
        simp only [List.mem_cons, List.not_mem_nil, or_false] at hzero
        rcases hzero with heq | heq | heq <;> exact hbyte _ (by omega) heq
      next =>
        simp only [List.mem_cons, List.not_mem_nil, or_false] at hzero
        rcases hzero with heq | heq | heq | heq <;> exact hbyte _ (by omega) heq

theorem isDigit_of_mem_numeral {n : Nat} {c : Char} (h : c ∈ Nat.toDigits 10 n) :
    c.isDigit = true :=
  Nat.isDigit_of_mem_toDigits (by decide) (by decide) h

theorem numeral_injective {m n : Nat} (h : Nat.toDigits 10 m = Nat.toDigits 10 n) : m = n := by
  rw [← Nat.ofDigitChars_ten_toDigits (n := m), h, Nat.ofDigitChars_ten_toDigits]

theorem takeWhile_numeral {n : Nat} {c : Char} (hc : c.isDigit = false) (rest : List Char) :
    (Nat.toDigits 10 n ++ c :: rest).takeWhile Char.isDigit = Nat.toDigits 10 n := by
  rw [List.takeWhile_append_of_pos fun _ => isDigit_of_mem_numeral]
  simp [hc]

theorem numeral_append_cons_inj {m n : Nat} {c : Char} {xs ys : List Char}
    (hc : c.isDigit = false) (h : Nat.toDigits 10 m ++ c :: xs = Nat.toDigits 10 n ++ c :: ys) :
    m = n ∧ xs = ys := by
  have hdigits : Nat.toDigits 10 m = Nat.toDigits 10 n := by
    rw [← takeWhile_numeral hc xs, h, takeWhile_numeral hc]
  rw [hdigits] at h
  exact ⟨numeral_injective hdigits, (List.cons.inj (List.append_cancel_left h)).2⟩

namespace Owner

variable {k l : Rollup.KeyHash} {m n a b : UInt32}

theorem toList_template {w : Nat} (p q r : String) (hash : Bytes w) (m n : Nat) :
    (p ++ hash.hex ++ q ++ toString m ++ r ++ toString n).toList =
      p.toList ++ ('0' :: 'x' :: (Hex.encode hash.toList ++ (q.toList ++ (Nat.toDigits 10 m ++
        (r.toList ++ Nat.toDigits 10 n))))) := by
  simp only [String.toList_append, Bytes.toList_hex, Nat.toString_eq_repr, Nat.toList_repr,
    List.append_assoc, List.cons_append]

theorem toList_approvalText (keyHash : Rollup.KeyHash) (nonce account : UInt32) :
    (approvalText keyHash nonce account).toList =
      "ChangePubKey\nPubKeyHash: ".toList ++ ('0' :: 'x' :: (Hex.encode keyHash.toList ++
        ("\nNonce: ".toList ++ (Nat.toDigits 10 nonce.toNat ++
          ("\nAccountId: ".toList ++ Nat.toDigits 10 account.toNat))))) :=
  toList_template _ _ _ _ _ _

/-- The hash has a fixed width and the nonce ends before a line break, so the text can be taken
apart in one way only. -/
theorem approvalText_eq_iff : approvalText k m a = approvalText l n b ↔ k = l ∧ m = n ∧ a = b := by
  constructor
  · intro h
    have h := congrArg String.toList h
    rw [toList_approvalText, toList_approvalText] at h
    have h := (List.cons.inj (List.cons.inj (List.append_cancel_left h)).2).2
    obtain ⟨hkey, h⟩ := List.append_inj h (by simp [Hex.length_encode, Bytes.length_toList])
    obtain ⟨hnonce, h⟩ := numeral_append_cons_inj (c := '\n') rfl (List.append_cancel_left h)
    have haccount := numeral_injective (List.append_cancel_left h)
    exact ⟨Bytes.ext (Hex.encode_injective hkey), UInt32.toNat_inj.mp hnonce,
      UInt32.toNat_inj.mp haccount⟩
  · rintro ⟨rfl, rfl, rfl⟩
    rfl

theorem zero_notMem_utf8_approvalText : 0 ∉ utf8 (approvalText k m a) := by
  have hnumeral (n : Nat) : '\x00' ∉ Nat.toDigits 10 n := by
    intro h
    exact absurd (isDigit_of_mem_numeral h) (by decide)
  apply zero_notMem_utf8
  rw [toList_approvalText]
  simp only [List.mem_append, List.mem_cons, not_or]
  exact ⟨by decide, by decide, by decide, Hex.zero_notMem_encode _, by decide, hnumeral _,
    by decide, hnumeral _⟩

end Owner

end KeyChange
