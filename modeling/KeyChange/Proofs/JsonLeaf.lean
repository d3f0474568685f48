import KeyChange.Json.Scan
import KeyChange.Json.Value
import Mathlib.Data.List.Basic

namespace KeyChange.Json

theorem skipBlank_cons {c : Char} (h : isBlank c = false) (cs : List Char) :
    skipBlank (c :: cs) = c :: cs := by
  simp [skipBlank, h]

theorem isBlank_of_isDigit {c : Char} (h : isDigit c = true) : isBlank c = false := by
  simp only [isBlank, Bool.or_eq_false_iff, decide_eq_false_iff_not]
  refine ⟨⟨⟨?_, ?_⟩, ?_⟩, ?_⟩ <;> rintro rfl <;> simp [isDigit] at h

theorem hexValue?_digitChar {n : Nat} (h : n < 16) : hexValue? (Hex.digitChar n) = some n := by
  have hall : ∀ i : Fin 16, hexValue? (Hex.digitChar i) = some i.val := by decide
  exact hall ⟨n, h⟩

theorem scanChars_escape (c : Char) (cs : List Char) :
    scanChars none (Value.escape c ++ cs) = prepend c (scanChars none cs) := by
  by_cases hquote : c = '\"'
  · subst hquote; rfl
  by_cases hslash : c = '\\'
  · subst hslash; rfl
  by_cases hb : c = '\x08'
  · subst hb; rfl
  by_cases ht : c = '\t'
  · subst ht; rfl
  by_cases hn : c = '\n'
  · subst hn; rfl
  by_cases hf : c = '\x0c'
  · subst hf; rfl
  by_cases hr : c = '\r'
  · subst hr; rfl
  by_cases hcontrol : c.toNat < 32
  · have hhigh := hexValue?_digitChar (show c.toNat / 16 < 16 by omega)
    have hlow := hexValue?_digitChar (show c.toNat % 16 < 16 by omega)
    have hsum : c.toNat / 16 * 16 + c.toNat % 16 = c.toNat := Nat.div_add_mod' _ _
    have hzero : hexValue? '0' = some 0 := rfl
    have hvalue : hexValue4? '0' '0' (Hex.digitChar (c.toNat / 16)) (Hex.digitChar (c.toNat % 16)) =
        some c.toNat := by
      simp [hexValue4?, hhigh, hlow, hzero, hsum]
    -- A control character is no surrogate.
    have htrailing : isTrailing c.toNat = false := by
      simp only [isTrailing, Bool.and_eq_false_iff, decide_eq_false_iff_not]
      omega
    have hleading : isLeading c.toNat = false := by
      simp only [isLeading, Bool.and_eq_false_iff, decide_eq_false_iff_not]
      omega
    simp [Value.escape, hquote, hslash, hb, ht, hn, hf, hr, hcontrol, scanChars, hvalue, htrailing,
      hleading, refuseIf]
  · simp [Value.escape, hquote, hslash, hb, ht, hn, hf, hr, hcontrol, scanChars, refuseIf]

theorem scanChars_escaped (cs rest : List Char) :
    scanChars none (cs.flatMap Value.escape ++ '\"' :: rest) = (.ofValue cs, some rest) := by
  induction cs with
  | nil => rfl
  | cons c cs ih =>
    rw [List.flatMap_cons, List.append_assoc, scanChars_escape, ih]
    rfl

theorem scanString_printed (s : String) (rest : List Char) :
    scanString (s.toList.flatMap Value.escape ++ '\"' :: rest) = (.ofValue s, some rest) := by
  rw [scanString, scanChars_escaped]
  simp [Leaf.ofValue, Leaf.map, Except.map]

/-- What may follow a number: nothing that would go on with it. -/
def EndsNumber (rest : List Char) : Prop :=
  ∀ c cs, rest = c :: cs → isDigit c = false ∧ c ≠ '.' ∧ c ≠ 'e' ∧ c ≠ 'E'

theorem endsNumber_nil : EndsNumber [] := by
  intro c cs h
  cases h

theorem endsNumber_cons {c : Char} (h : c = ',' ∨ c = ']' ∨ c = '\x7d') (cs : List Char) :
    EndsNumber (c :: cs) := by
  intro c' cs' heq
  cases heq
  rcases h with rfl | rfl | rfl <;> decide

theorem isDigit_of_mem_toDigits {n : Nat} {c : Char} (h : c ∈ Nat.toDigits 10 n) :
    isDigit c = true := by
  have := Nat.isDigit_of_mem_toDigits (by decide) (by decide) h
  simpa [isDigit, Char.isDigit, Char.le_def] using this

theorem exists_toDigits_eq_cons {n : Nat} (h : 0 < n) :
    ∃ c cs, Nat.toDigits 10 n = c :: cs ∧ c ≠ '0' := by
  induction n using Nat.strongRecOn with
  | ind n ih =>
    rw [Nat.toDigits_eq_if (by decide)]
    split
    next hlt =>
      refine ⟨_, [], rfl, ?_⟩
      have hall : ∀ i : Fin 10, i.val ≠ 0 → Nat.digitChar i ≠ '0' := by decide
      exact hall ⟨n, hlt⟩ (by simp; omega)
    next hge =>
      obtain ⟨c, cs, heq, hc⟩ := ih (n / 10) (by omega) (by omega)
      exact ⟨c, cs ++ [Nat.digitChar (n % 10)], by rw [heq, List.cons_append], hc⟩

namespace Number

theorem le_foldl_digits (ds : List Char) (n : Nat) :
    n ≤ ds.foldl (fun n c => n * 10 + digitValue c) n := by
  induction ds generalizing n with
  | nil => simp
  | cons c ds ih =>
    have := ih (n * 10 + digitValue c)
    rw [List.foldl_cons]
    omega

theorem takeBelow_eq {bound : Nat} (ds : List Char) (n : Nat)
    (h : ds.foldl (fun n c => n * 10 + digitValue c) n < bound) :
    takeBelow bound n ds = (ds.foldl (fun n c => n * 10 + digitValue c) n, []) := by
  induction ds generalizing n with
  | nil => rfl
  | cons c ds ih =>
    have hle := le_foldl_digits ds (n * 10 + digitValue c)
    have hlt : n * 10 + digitValue c < bound := Nat.lt_of_le_of_lt hle h
    rw [takeBelow, if_pos hlt, ih _ h, List.foldl_cons]

theorem foldl_toDigits (n : Nat) :
    (Nat.toDigits 10 n).foldl (fun n c => n * 10 + digitValue c) 0 = n := by
  simp only [Nat.mul_comm _ 10]
  exact Nat.ofDigitChars_ten_toDigits

theorem ofLiteral_toDigits {n : Nat} (h : n < UInt64.size) :
    ofLiteral ⟨false, Nat.toDigits 10 n, none, none⟩ = some (.natural n) := by
  have htake : takeBelow UInt64.size 0 (Nat.toDigits 10 n) = (n, []) := by
    rw [takeBelow_eq _ _ (by rw [foldl_toDigits]; exact h), foldl_toDigits]
  simp only [ofLiteral, htake]
  rfl

end Number

theorem scanFraction_of_endsNumber {l : Number.Literal} {rest : List Char}
    (h : EndsNumber rest) : scanFraction l rest = finishNumber l rest := by
  cases rest with
  | nil => rfl
  | cons c cs =>
    obtain ⟨-, hpoint, he, hE⟩ := h c cs rfl
    simp [scanFraction, scanExponent, hpoint, he, hE]

theorem scanNumber_toDigits {n : Nat} (h : n < UInt64.size) {rest : List Char}
    (hrest : EndsNumber rest) :
    scanNumber false (Nat.toDigits 10 n ++ rest) = (.ofValue (.natural n), some rest) := by
  have hdigits : ∀ c ∈ Nat.toDigits 10 n, isDigit c = true := fun c => isDigit_of_mem_toDigits
  have hnone : rest.takeWhile isDigit = [] ∧ rest.dropWhile isDigit = rest := by
    cases rest with
    | nil => simp
    | cons c cs => simp [(hrest c cs rfl).1]
  have hscan : scanFraction ⟨false, Nat.toDigits 10 n, none, none⟩ rest =
      (.ofValue (.natural n), some rest) := by
    rw [scanFraction_of_endsNumber hrest, finishNumber, Number.ofLiteral_toDigits h]
  rw [scanNumber, List.takeWhile_append_of_pos hdigits, List.dropWhile_append_of_pos hdigits,
    hnone.1, hnone.2, List.append_nil]
  -- A zero in front ends a number, so only zero itself is written with one.
  rcases Nat.eq_zero_or_pos n with rfl | hpos
  · exact hscan
  · obtain ⟨c, cs, heq, hc⟩ := exists_toDigits_eq_cons hpos
    rw [heq] at hscan ⊢
    split
    next h => simp at h
    next h => exact absurd (List.cons.inj h).1 hc
    next => exact hscan

end KeyChange.Json
