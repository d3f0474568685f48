import KeyChange.Starknet.Message
import KeyChange.Proofs.Layout

namespace KeyChange

variable {xs ys : List UInt8}

theorem ofLittleEndian_append (xs ys : List UInt8) :
    ofLittleEndian (xs ++ ys) = ofLittleEndian xs + 256 ^ xs.length * ofLittleEndian ys := by
  induction xs with
  | nil => simp [ofLittleEndian]
  | cons x xs ih =>
    simp only [List.cons_append, ofLittleEndian, ih, List.length_cons, Nat.pow_succ]
    rw [Nat.mul_add, Nat.mul_comm (256 ^ xs.length) 256, Nat.mul_assoc, Nat.add_assoc]

theorem ofBigEndian_cons (b : UInt8) (bs : List UInt8) :
    ofBigEndian (b :: bs) = ofBigEndian bs + 256 ^ bs.length * b.toNat := by
  simp [ofBigEndian, ofLittleEndian_append, ofLittleEndian]

theorem eq_of_ofBigEndian_eq (hlen : xs.length = ys.length)
    (h : ofBigEndian xs = ofBigEndian ys) : xs = ys := by
  rw [← bigEndian_ofBigEndian xs, h, hlen, bigEndian_ofBigEndian]

theorem length_le_of_ofBigEndian_le (hx : xs.head? ≠ some 0)
    (h : ofBigEndian xs ≤ ofBigEndian ys) : xs.length ≤ ys.length := by
  cases xs with
  | nil => exact Nat.zero_le _
  | cons x xs =>
    have hpos : 0 < x.toNat :=
      Nat.pos_of_ne_zero fun hzero => hx (congrArg some (UInt8.toNat_inj.mp hzero))
    have hlow : 256 ^ xs.length ≤ ofBigEndian (x :: xs) := by
      rw [ofBigEndian_cons]
      exact Nat.le_add_left_of_le (Nat.le_mul_of_pos_right _ hpos)
    have hpow : 256 ^ xs.length < 256 ^ ys.length :=
      Nat.lt_of_le_of_lt (Nat.le_trans hlow h) (ofBigEndian_lt ys)
    exact (Nat.pow_lt_pow_iff_right (by decide)).mp hpow

/-- The bytes from the first one on that is not zero. -/
def significant (bs : List UInt8) : List UInt8 := bs.dropWhile (· = 0)

theorem significant_zero_cons (bs : List UInt8) : significant (0 :: bs) = significant bs :=
  List.dropWhile_cons_of_pos rfl

theorem significant_eq_self (h : xs.head? ≠ some 0) : significant xs = xs := by
  cases xs with
  | nil => rfl
  | cons x xs =>
    have hx : x ≠ 0 := fun hzero => h (congrArg some hzero)
    exact List.dropWhile_cons_of_neg (by simpa using hx)

theorem head?_significant_ne (bs : List UInt8) : (significant bs).head? ≠ some 0 := by
  intro h
  have hnot := List.head?_dropWhile_not (fun b : UInt8 => decide (b = 0)) bs
  rw [← significant, h] at hnot
  simp at hnot

theorem ofBigEndian_significant (bs : List UInt8) :
    ofBigEndian (significant bs) = ofBigEndian bs := by
  induction bs with
  | nil => rfl
  | cons b bs ih =>
    by_cases hb : b = 0
    · subst hb
      rw [significant_zero_cons, ih, ofBigEndian_cons]
      rfl
    · rw [significant_eq_self (by simpa using hb)]

theorem ofBigEndian_eq_iff : ofBigEndian xs = ofBigEndian ys ↔ significant xs = significant ys := by
  constructor
  · intro h
    rw [← ofBigEndian_significant xs, ← ofBigEndian_significant ys] at h
    have hle := length_le_of_ofBigEndian_le (head?_significant_ne xs) (Nat.le_of_eq h)
    have hge := length_le_of_ofBigEndian_le (head?_significant_ne ys) (Nat.le_of_eq h.symm)
    exact eq_of_ofBigEndian_eq (Nat.le_antisymm hle hge) h
  · intro h
    rw [← ofBigEndian_significant xs, h, ofBigEndian_significant]

namespace Stark.Felt

theorem val_reduce (h : xs.length ≤ shortLength) : (reduce xs).val = ofBigEndian xs := by
  have hlt : ofBigEndian xs < modulus :=
    calc ofBigEndian xs < 256 ^ xs.length := ofBigEndian_lt xs
      _ ≤ 256 ^ shortLength := Nat.pow_le_pow_right (by decide) h
      _ ≤ modulus := by decide
  exact Nat.mod_eq_of_lt hlt

theorem reduce_eq_iff (hx : xs.length ≤ shortLength) (hy : ys.length ≤ shortLength) :
    reduce xs = reduce ys ↔ significant xs = significant ys := by
  rw [Fin.ext_iff, val_reduce hx, val_reduce hy, ofBigEndian_eq_iff]

end Stark.Felt

namespace Starknet

open Stark

@[simp] theorem pieces_nil : pieces [] = [] := by rw [pieces]

@[simp] theorem pieces_cons (b : UInt8) (bs : List UInt8) :
    pieces (b :: bs) = (b :: bs.take 30) :: pieces (bs.drop 30) := by rw [pieces]

@[simp] theorem messageElements_nil : messageElements [] = [] := by simp [messageElements]

theorem messageElements_cons (b : UInt8) (bs : List UInt8) :
    messageElements (b :: bs) = Felt.reduce (b :: bs.take 30) :: messageElements (bs.drop 30) := by
  simp [messageElements]

theorem length_piece_le (b : UInt8) (bs : List UInt8) :
    (b :: bs.take 30).length ≤ Felt.shortLength :=
  Nat.succ_le_succ (List.length_take_le 30 bs)

theorem messageElements_append (h : xs.length % Felt.shortLength = 0) :
    messageElements (xs ++ ys) = messageElements xs ++ messageElements ys := by
  induction xs using pieces.induct with
  | case1 => simp
  | case2 x xs ih =>
    simp only [List.length_cons, Felt.shortLength] at h
    have hrest : (xs.drop 30).length % Felt.shortLength = 0 := by
      simp only [List.length_drop, Felt.shortLength]
      omega
    rw [List.cons_append, messageElements_cons, messageElements_cons,
      List.take_append_of_le_length (by omega), List.drop_append_of_le_length (by omega), ih hrest,
      List.cons_append]

theorem messageElements_piece (hne : xs ≠ []) (h : xs.length ≤ Felt.shortLength) :
    messageElements xs = [Felt.reduce xs] := by
  cases xs with
  | nil => exact absurd rfl hne
  | cons x xs =>
    have hle : xs.length ≤ 30 := Nat.le_of_succ_le_succ h
    rw [messageElements_cons, List.take_of_length_le hle, List.drop_of_length_le hle,
      messageElements_nil]

/-- The messages are the same but for zero bytes in front of their last pieces. -/
def AgreeUpToPadding (xs ys : List UInt8) : Prop :=
  ∃ front last last', xs = front ++ last ∧ ys = front ++ last' ∧
    front.length % Felt.shortLength = 0 ∧ last.length ≤ Felt.shortLength ∧
    last'.length ≤ Felt.shortLength ∧ (last = [] ↔ last' = []) ∧
    significant last = significant last'

namespace AgreeUpToPadding

theorem append {front : List UInt8} (hfull : front.length % Felt.shortLength = 0)
    (h : AgreeUpToPadding xs ys) : AgreeUpToPadding (front ++ xs) (front ++ ys) := by
  obtain ⟨front', last, last', rfl, rfl, hfull', hrest⟩ := h
  refine ⟨front ++ front', last, last', by simp, by simp, ?_, hrest⟩
  simp only [List.length_append, Felt.shortLength] at hfull hfull' ⊢
  omega

theorem eq_nil_iff (h : AgreeUpToPadding xs ys) : xs = [] ↔ ys = [] := by
  obtain ⟨front, last, last', rfl, rfl, -, -, -, hnil, -⟩ := h
  simp [hnil]

theorem eq_of_length_eq (h : AgreeUpToPadding xs ys) (hlen : xs.length = ys.length) : xs = ys := by
  obtain ⟨front, last, last', rfl, rfl, -, -, -, -, hsame⟩ := h
  simp only [List.length_append, Nat.add_left_cancel_iff] at hlen
  rw [eq_of_ofBigEndian_eq hlen (ofBigEndian_eq_iff.mpr hsame)]

theorem of_messageElements_eq (h : messageElements xs = messageElements ys) :
    AgreeUpToPadding xs ys := by
  induction xs using pieces.induct generalizing ys with
  | case1 =>
    cases ys with
    | nil => exact ⟨[], [], [], by simp⟩
    | cons y ys => simp [messageElements_cons] at h
  | case2 x xs ih =>
    cases ys with
    | nil => simp [messageElements_cons] at h
    | cons y ys =>
      rw [messageElements_cons, messageElements_cons] at h
      obtain ⟨hfirst, hrest⟩ := List.cons.inj h
      have hsame := (Felt.reduce_eq_iff (length_piece_le x xs) (length_piece_le y ys)).mp hfirst
      have hrest := ih hrest
      by_cases hlast : xs.drop 30 = []
      · have hx : xs.length ≤ 30 := List.drop_eq_nil_iff.mp hlast
        have hy : ys.length ≤ 30 := List.drop_eq_nil_iff.mp (hrest.eq_nil_iff.mp hlast)
        rw [List.take_of_length_le hx, List.take_of_length_le hy] at hsame
        exact ⟨[], x :: xs, y :: ys, rfl, rfl, rfl, Nat.succ_le_succ hx, Nat.succ_le_succ hy,
          by simp, hsame⟩
      · -- More pieces follow, so the first ones are both full and their numbers give them.
        have hx : (x :: xs.take 30).length = Felt.shortLength := by
          simp only [List.drop_eq_nil_iff] at hlast
          simp only [List.length_cons, List.length_take, Felt.shortLength]
          omega
        have hy : (y :: ys.take 30).length = Felt.shortLength := by
          simp only [hrest.eq_nil_iff, List.drop_eq_nil_iff] at hlast
          simp only [List.length_cons, List.length_take, Felt.shortLength]
          omega
        have hpiece : x :: xs.take 30 = y :: ys.take 30 :=
          eq_of_ofBigEndian_eq (hx.trans hy.symm) (ofBigEndian_eq_iff.mpr hsame)
        have hfull : (x :: xs.take 30).length % Felt.shortLength = 0 := by
          rw [hx]
          rfl
        have hwhole := hrest.append hfull
        rwa [List.cons_append, List.take_append_drop, hpiece, List.cons_append,
          List.take_append_drop] at hwhole

end AgreeUpToPadding

/-- Nothing is lost of a message but the zero bytes in front of its last piece. -/
theorem messageElements_eq_iff :
    messageElements xs = messageElements ys ↔ AgreeUpToPadding xs ys := by
  constructor
  · exact AgreeUpToPadding.of_messageElements_eq
  · rintro ⟨front, last, last', rfl, rfl, hfull, hx, hy, hnil, hsame⟩
    rw [messageElements_append hfull, messageElements_append hfull]
    by_cases hlast : last = []
    · rw [hlast, hnil.mp hlast]
    · have hlast' : last' ≠ [] := fun h => hlast (hnil.mpr h)
      rw [messageElements_piece hlast hx, messageElements_piece hlast' hy,
        (Felt.reduce_eq_iff hx hy).mpr hsame]

theorem eq_of_messageElements_eq (hx : 0 ∉ xs) (hy : 0 ∉ ys)
    (h : messageElements xs = messageElements ys) : xs = ys := by
  obtain ⟨front, last, last', rfl, rfl, -, -, -, -, hsame⟩ := messageElements_eq_iff.mp h
  have hhead {bs : List UInt8} (hbs : 0 ∉ front ++ bs) : bs.head? ≠ some 0 :=
    fun hzero => hbs (List.mem_append_right _ (List.mem_of_head? hzero))
  rw [significant_eq_self (hhead hx), significant_eq_self (hhead hy)] at hsame
  rw [hsame]

end Starknet

end KeyChange
