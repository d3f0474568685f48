import KeyChange.Transaction.Request
import KeyChange.Proofs.JsonLeaf

namespace KeyChange

open Json (isDigit isDigit_of_mem_toDigits)
open Json.Number (digitValue foldl_toDigits)

variable {c : Char} {cs : List Char} {s : String} {n : Nat}

/-- The text is the numeral of a number, with any number of zeros in front. -/
def IsNumeral (s : String) (n : Nat) : Prop :=
  ∃ zeros, s.toList = List.replicate zeros '0' ++ (toString n).toList

theorem digitChar_digitValue (h : isDigit c = true) :
    digitValue c < 10 ∧ Nat.digitChar (digitValue c) = c := by
  simp only [isDigit, Bool.and_eq_true, decide_eq_true_eq, Char.le_def,
    UInt32.le_iff_toNat_le] at h
  have hzero : ('0' : Char).val.toNat = 48 := rfl
  have hnine : ('9' : Char).val.toNat = 57 := rfl
  have hcode : c.val.toNat = c.toNat := rfl
  have hlt : digitValue c < 10 := by
    simp only [digitValue]
    omega
  refine ⟨hlt, Char.toNat_inj.mp ?_⟩
  rw [Nat.toNat_digitChar_of_lt_ten hlt, digitValue]
  omega

theorem toDigits_append_digits (hn : 0 < n) (h : ∀ c ∈ cs, isDigit c = true) :
    Nat.toDigits 10 n ++ cs =
      Nat.toDigits 10 (cs.foldl (fun n c => n * 10 + digitValue c) n) := by
  induction cs generalizing n with
  | nil => simp
  | cons c cs ih =>
    obtain ⟨hlt, hchar⟩ := digitChar_digitValue (h c (by simp))
    have hstep : Nat.toDigits 10 n ++ [c] = Nat.toDigits 10 (n * 10 + digitValue c) := by
      rw [Nat.mul_comm, ← Nat.toDigits_append_toDigits (by decide) hn hlt,
        Nat.toDigits_of_lt_base hlt, hchar]
    rw [List.foldl_cons, ← ih (by omega) fun d hd => h d (by simp [hd]), ← hstep,
      List.append_assoc, List.singleton_append]

theorem exists_zeros_append_toDigits (hne : cs ≠ []) (h : ∀ c ∈ cs, isDigit c = true) :
    ∃ zeros, cs = List.replicate zeros '0' ++
      Nat.toDigits 10 (cs.foldl (fun n c => n * 10 + digitValue c) 0) := by
  induction cs with
  | nil => exact absurd rfl hne
  | cons c cs ih =>
    obtain ⟨hlt, hchar⟩ := digitChar_digitValue (h c (by simp))
    have hcs : ∀ d ∈ cs, isDigit d = true := fun d hd => h d (by simp [hd])
    rw [List.foldl_cons, Nat.zero_mul, Nat.zero_add]
    by_cases hfirst : digitValue c = 0
    · -- a zero in front, unless it is the only digit
      have hzero : c = '0' := by
        rw [← hchar, hfirst]
        rfl
      rw [hfirst]
      cases cs with
      | nil => exact ⟨0, by simp [hzero]⟩
      | cons d ds =>
        obtain ⟨zeros, hzeros⟩ := ih (by simp) hcs
        exact ⟨zeros + 1, by rw [hzero, List.replicate_succ, List.cons_append, ← hzeros]⟩
    · have hnumeral : Nat.toDigits 10 (digitValue c) = [c] := by
        rw [Nat.toDigits_of_lt_base hlt, hchar]
      exact ⟨0, by rw [← toDigits_append_digits (by omega) hcs, hnumeral]; rfl⟩

namespace Request

theorem decimal?_eq_some_iff : decimal? s = some n ↔ IsNumeral s n := by
  have hnumeral : (toString n).toList = Nat.toDigits 10 n := by
    rw [Nat.toString_eq_repr, Nat.toList_repr]
  unfold decimal? IsNumeral
  rw [hnumeral]
  dsimp only
  constructor
  · intro h
    split at h
    next hdigits =>
      obtain ⟨hne, hall⟩ := hdigits
      rw [← Option.some.inj h]
      exact exists_zeros_append_toDigits hne (List.all_eq_true.mp hall)
    next => simp at h
  · rintro ⟨zeros, hzeros⟩
    have hall : s.toList.all isDigit = true := by
      rw [hzeros, List.all_append, Bool.and_eq_true]
      refine ⟨?_, List.all_eq_true.mpr fun _ => isDigit_of_mem_toDigits⟩
      exact List.all_eq_true.mpr fun c hc => by rw [List.eq_of_mem_replicate hc]; rfl
    have hvalue : (List.replicate zeros '0').foldl (fun n c => n * 10 + digitValue c) 0 = 0 := by
      simp only [Nat.mul_comm _ 10]
      exact Nat.ofDigitChars_replicate_zero
    rw [if_pos ⟨by rw [hzeros]; simp, hall⟩, hzeros, List.foldl_append, hvalue, foldl_toDigits]

theorem decimal?_toString (n : Nat) : decimal? (toString n) = some n :=
  decimal?_eq_some_iff.mpr ⟨0, rfl⟩

end Request

end KeyChange
