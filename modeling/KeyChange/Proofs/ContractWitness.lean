import KeyChange.Transaction.Authorization
import KeyChange.Proofs.SignatureText

namespace KeyChange

namespace Ethereum

namespace Recovery

def withOffset (v : Recovery) : Recovery := ⟨v.isOdd, true⟩

/-- The bytes are one, or one is the other with 27 added. -/
def Agrees (v w : Recovery) : Prop :=
  v.toByte = w.toByte ∨ v.toByte = w.toByte + 27 ∨ w.toByte = v.toByte + 27

theorem agrees_iff {v w : Recovery} : v.Agrees w ↔ v.withOffset = w.withOffset := by
  obtain ⟨isOdd, hasOffset⟩ := v
  obtain ⟨isOdd', hasOffset'⟩ := w
  unfold Agrees
  cases isOdd <;> cases hasOffset <;> cases isOdd' <;> cases hasOffset' <;> decide

theorem toByte_withOffset_mem (v : Recovery) : v.withOffset.toByte ∈ ([27, 28] : List UInt8) := by
  obtain ⟨isOdd, hasOffset⟩ := v
  cases isOdd <;> cases hasOffset <;> decide

theorem toByte_withOffset (v : Recovery) :
    v.withOffset.toByte = v.toByte ∨ v.withOffset.toByte = v.toByte + 27 := by
  obtain ⟨isOdd, hasOffset⟩ := v
  cases isOdd <;> cases hasOffset <;> decide

end Recovery

namespace Signature

def withOffset (x : Signature) : Signature := { x with v := x.v.withOffset }

theorem recover_withOffset (x : Signature) (digest : Bytes 32) :
    x.withOffset.recover digest = x.recover digest := rfl

theorem withOffset_eq_iff {x y : Signature} :
    x.withOffset = y.withOffset ↔ x.r = y.r ∧ x.s = y.s ∧ x.v.Agrees y.v := by
  rw [Recovery.agrees_iff, withOffset, withOffset, Signature.mk.injEq]

theorem toList_injective {x y : Signature} (h : x.toList = y.toList) : x = y :=
  Except.ok.inj ((ofList_eq_ok_iff.mpr rfl).symm.trans (ofList_eq_ok_iff.mpr h))

end Signature

end Ethereum

namespace Create2

theorem length_witness (data : Create2) : data.witness.length = 85 := by
  simp [witness, Bytes.length_toList]

theorem witness_injective {data data' : Create2} (h : data.witness = data'.witness) :
    data = data' := by
  obtain ⟨h, hcode⟩ := List.append_inj' h (by simp [Bytes.length_toList])
  obtain ⟨h, hsalt⟩ := List.append_inj' h (by simp [Bytes.length_toList])
  obtain ⟨-, hcreator⟩ := List.cons.inj h
  cases data
  cases data'
  rw [Create2.mk.injEq]
  exact ⟨Bytes.ext hcreator, Bytes.ext hsalt, Bytes.ext hcode⟩

end Create2

namespace Authorization

variable {a b : Authorization} {w : List UInt8}

theorem witness?_eq_none_iff :
    a.witness? = none ↔ a = .onchain ∨ ∃ x, a = .signed (.starknet x) := by
  cases a with
  | onchain => simp [witness?]
  | signed x => cases x <;> simp [witness?]
  | create2 data => simp [witness?]

theorem witness?_ethereum (x : Ethereum.Signature) :
    (signed (.ethereum x)).witness? = some (0 :: x.withOffset.toList) := rfl

theorem witness?_eq_some_iff : a.witness? = some w ↔
    (∃ x, a = .signed (.ethereum x) ∧ w = 0 :: x.withOffset.toList) ∨
    ∃ data, a = .create2 data ∧ w = data.witness := by
  cases a with
  | onchain => simp [witness?]
  | signed x =>
    cases x with
    | ethereum x => simp [witness?_ethereum, eq_comm]
    | starknet x => simp [witness?]
  | create2 data => simp [witness?, eq_comm]

/-- The first bytes tell the two kinds of witness apart. -/
theorem same_witness_iff : (∃ w, a.witness? = some w ∧ b.witness? = some w) ↔
    (∃ data, a = .create2 data ∧ b = .create2 data) ∨
    ∃ x y, a = .signed (.ethereum x) ∧ b = .signed (.ethereum y) ∧
      x.r = y.r ∧ x.s = y.s ∧ x.v.Agrees y.v := by
  constructor
  · rintro ⟨w, ha, hb⟩
    obtain ⟨x, rfl, rfl⟩ | ⟨data, rfl, rfl⟩ := witness?_eq_some_iff.mp ha
    · obtain ⟨y, rfl, hw⟩ | ⟨data, rfl, hw⟩ := witness?_eq_some_iff.mp hb
      · have hsame := Ethereum.Signature.toList_injective (List.cons.inj hw).2
        exact Or.inr ⟨x, y, rfl, rfl, Ethereum.Signature.withOffset_eq_iff.mp hsame⟩
      · exact absurd (List.cons.inj hw).1 (by decide)
    · obtain ⟨y, rfl, hw⟩ | ⟨data', rfl, hw⟩ := witness?_eq_some_iff.mp hb
      · exact absurd (List.cons.inj hw).1 (by decide)
      · rw [Create2.witness_injective hw]
        exact Or.inl ⟨data', rfl, rfl⟩
  · rintro (⟨data, rfl, rfl⟩ | ⟨x, y, rfl, rfl, hagree⟩)
    · exact ⟨data.witness, rfl, rfl⟩
    · refine ⟨0 :: x.withOffset.toList, witness?_ethereum x, ?_⟩
      rw [Ethereum.Signature.withOffset_eq_iff.mpr hagree, witness?_ethereum]

/-- Which authorizations have a witness, what it is, when two have the same, and that the signature in it is
recovered as the one that it was made of. -/
theorem witness_shows_authorization :
    (∀ a : Authorization,
      a.witness? = none ↔ a = .onchain ∨ ∃ x, a = .signed (.starknet x)) ∧
    (∀ x : Ethereum.Signature, ∃ w v, (signed (.ethereum x)).witness? = some w ∧ w.length = 66 ∧
      w = 0 :: x.r.toList ++ x.s.toList ++ [v] ∧ v ∈ ([27, 28] : List UInt8) ∧
      (v = x.v.toByte ∨ v = x.v.toByte + 27) ∧
      ∃ y, Ethereum.Signature.ofList (w.drop 1) = .ok y ∧
        ∀ digest, y.recover digest = x.recover digest) ∧
    (∀ data : Create2, ∃ w, (create2 data).witness? = some w ∧ w.length = 85 ∧
      w = 1 :: data.creator.toList ++ data.salt.toList ++ data.codeHash.toList) ∧
    ∀ a b : Authorization, (∃ w, a.witness? = some w ∧ b.witness? = some w) ↔
      (∃ data, a = .create2 data ∧ b = .create2 data) ∨
      ∃ x y, a = .signed (.ethereum x) ∧ b = .signed (.ethereum y) ∧
        x.r = y.r ∧ x.s = y.s ∧ x.v.Agrees y.v := by
  refine ⟨fun a => witness?_eq_none_iff, fun x => ?_, fun data => ?_, fun a b => same_witness_iff⟩
  · refine ⟨_, x.v.withOffset.toByte, witness?_ethereum x, ?_, rfl, x.v.toByte_withOffset_mem,
      x.v.toByte_withOffset, x.withOffset, ?_, x.recover_withOffset⟩
    · rw [List.length_cons, Ethereum.Signature.length_toList, Ethereum.Signature.size]
    · exact Ethereum.Signature.ofList_eq_ok_iff.mpr rfl
  · exact ⟨data.witness, rfl, data.length_witness, rfl⟩

end Authorization

end KeyChange
