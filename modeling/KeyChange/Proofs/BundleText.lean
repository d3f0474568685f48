import KeyChange.Bundle
import KeyChange.Proofs.JsonRecord
import KeyChange.Proofs.SignatureText

namespace KeyChange

open Json

theorem reads_prefixedBytes {m n : Nat} (b : Bytes m) :
    Reads (readPrefixedBytes m) n (.string b.hex) b := by
  apply reads_text
  rw [Bytes.hex, Hex.decodeField_prefixed, mapError_ok_bind, Bytes.ofList?_toList]

theorem reads_prefixedList {n : Nat} (bytes : List UInt8) :
    Reads readPrefixedList n (.string (Hex.prefixed bytes)) bytes := by
  apply reads_text
  rw [Hex.decodeField_prefixed, mapError_ok]

namespace Create2

theorem exists_digits_encode (position : Nat) (bytes : List UInt8) :
    ∃ ds, digits position (utf8 (String.ofList (Hex.encode bytes))) = .ok ds ∧ pairUp ds = bytes := by
  induction bytes generalizing position with
  | nil => exact ⟨[], rfl, rfl⟩
  | cons b bs ih =>
    obtain ⟨ds, hds, hpairs⟩ := ih (position + 1 + 1)
    have hb := b.toNat_lt
    have hhigh := (Hex.digit?_digitByte (show b.toNat / 16 < 16 by omega)).2
    have hlow := (Hex.digit?_digitByte (show b.toNat % 16 < 16 by omega)).2
    have hsum : 16 * (b.toNat / 16) + b.toNat % 16 = b.toNat := Nat.div_add_mod _ _
    refine ⟨b.toNat / 16 :: b.toNat % 16 :: ds, ?_, ?_⟩
    · simp [Hex.utf8_encode_cons, digits, hhigh, hlow, hds, Except.map]
    · simp [pairUp, hsum, hpairs]

theorem reads_fixed {m n : Nat} (b : Bytes m) : Reads (readFixed m) n (.string b.hex) b := by
  intro o ho
  obtain ⟨ds, hds, hpairs⟩ := exists_digits_encode 2 b.toList
  have hdigits : Hex.unprefixed? b.hex = some (String.ofList (Hex.encode b.toList)) :=
    Hex.unprefixed?_prefixed b.toList
  have hlength : (utf8 (String.ofList (Hex.encode b.toList))).length = 2 * m := by
    rw [Hex.length_utf8_encode, b.length_toList]
  have hbytes : (b.toList ++ List.replicate m 0).take m = b.toList := by
    simp [b.length_toList]
  have hleaf : readLeaf (.ofValue b.hex) = .ok b.hex := rfl
  simp only [readFixed, Value.document, hleaf, hdigits, hlength, hds, hpairs, hbytes, bind,
    Except.bind, ne_eq, not_true_eq_false, if_false]
  rfl

theorem document_toJson_ne_null (data : Create2) : data.toJson.document ≠ .null := by
  simp [toJson, Value.document]

theorem reads_toJson (data : Create2) : Reads read 1 data.toJson data := by
  apply reads_record (by simp)
  · intro m hm
    simp only [List.mem_cons, List.not_mem_nil, or_false] at hm
    rcases hm with rfl | rfl | rfl
    · exact ⟨_, rfl, reads_required (reads_fixed _)⟩
    · exact ⟨_, rfl, reads_required (reads_fixed _)⟩
    · exact ⟨_, rfl, reads_required (reads_fixed _)⟩
  · intro o ho
    refine (get_record_bind ho rfl (reads_fixed data.creator)).trans ?_
    refine (get_record_bind ho rfl (reads_fixed data.salt)).trans ?_
    refine (get_record_bind ho rfl (reads_fixed data.codeHash)).trans ?_
    rfl

end Create2

theorem Rollup.Signature.reads_toJson (x : Rollup.Signature) : Reads read 1 x.toJson x := by
  apply reads_record (by simp)
  · intro m hm
    simp only [List.mem_cons, List.not_mem_nil, or_false] at hm
    rcases hm with rfl | rfl
    · exact ⟨_, rfl, reads_required (reads_prefixedBytes _)⟩
    · exact ⟨_, rfl, reads_required (reads_prefixedBytes _)⟩
  · intro o ho
    refine (get_record_bind ho rfl (reads_prefixedBytes x.publicKey)).trans ?_
    refine (get_record_bind ho rfl (reads_prefixedBytes x.signature)).trans ?_
    rfl

theorem Ethereum.Signature.reads_hex {n : Nat} (x : Ethereum.Signature) :
    Reads read n (.string x.hex) x :=
  reads_text (by rw [ofHex_hex]; rfl)

theorem Starknet.Signature.reads_hex {n : Nat} (x : Starknet.Signature) :
    Reads read n (.string x.hex) x :=
  reads_text (by rw [ofHex_hex]; rfl)

namespace Owner.Signature

theorem document_toJson_ne_null (x : Owner.Signature) : x.toJson.document ≠ .null := by
  cases x <;> simp [toJson, Value.document]

theorem reads_toJson (x : Owner.Signature) : Reads read 1 x.toJson x := by
  cases x with
  | ethereum x =>
    apply reads_adjacent _ (by decide) (by decide)
    intro o ho
    show (Ethereum.Signature.read o _).map _ = _
    rw [x.reads_hex o ho]
    rfl
  | starknet x =>
    apply reads_adjacent _ (by decide) (by decide)
    intro o ho
    show (Starknet.Signature.read o _).map _ = _
    rw [x.reads_hex o ho]
    rfl

end Owner.Signature

namespace Bundle

theorem reads_toJson (b : Bundle) : Reads read 2 b.toJson b := by
  obtain ⟨payload, signature, owner, create2⟩ := b
  apply reads_record
  · cases owner <;> cases create2 <;> simp
  · intro m hm
    have hmember : m = ("tx", .string (Hex.prefixed payload)) ∨
        m = ("signature", signature.toJson) ∨
        (∃ x, owner = some x ∧ m = ("layer1Signature", x.toJson)) ∨
        ∃ data, create2 = some data ∧ m = ("create2Data", data.toJson) := by
      cases owner <;> cases create2 <;> simpa [or_assoc] using hm
    rcases hmember with rfl | rfl | ⟨x, -, rfl⟩ | ⟨data, -, rfl⟩
    · exact ⟨_, rfl, reads_required (reads_prefixedList _)⟩
    · exact ⟨_, rfl, reads_required (Rollup.Signature.reads_toJson _)⟩
    · exact ⟨_, rfl, reads_optional x.document_toJson_ne_null x.reads_toJson⟩
    · exact ⟨_, rfl, reads_optional data.document_toJson_ne_null data.reads_toJson⟩
  · intro o ho
    refine (get_record_bind ho rfl (reads_prefixedList payload)).trans ?_
    refine (get_record_bind ho rfl (Rollup.Signature.reads_toJson signature)).trans ?_
    refine (get?_record_bind (a := owner) ho (by cases owner <;> cases create2 <;> rfl)
      Owner.Signature.document_toJson_ne_null Owner.Signature.reads_toJson).trans ?_
    refine (get?_record_bind (a := create2) ho (by cases owner <;> cases create2 <;> rfl)
      Create2.document_toJson_ne_null Create2.reads_toJson).trans ?_
    rfl

theorem fits_toJson (b : Bundle) : b.toJson.Fits := by
  obtain ⟨payload, signature, owner, create2⟩ := b
  have howner (x : Owner.Signature) : x.toJson.Fits := by
    cases x <;> exact ⟨trivial, trivial, trivial⟩
  have hcreate2 (data : Create2) : data.toJson.Fits := ⟨trivial, trivial, trivial, trivial⟩
  cases owner <;> cases create2 <;>
    simp [toJson, Rollup.Signature.toJson, Value.Fits, Value.MembersFit, howner, hcreate2]

theorem read_render (b : Bundle) : readFrom read b.render = .ok b :=
  readFrom_render b.fits_toJson (by decide) b.reads_toJson

theorem parse_render (b : Bundle) :
    parse b.render =
      if b.create2.isSome ∧ b.ownerSignature.isSome then .error (.validation conflict)
      else .ok b := by
  rw [parse, read_render]

theorem render_injective {b b' : Bundle} (h : b.render = b'.render) : b = b' := by
  have hread := read_render b
  rw [h, read_render b'] at hread
  exact (Except.ok.inj hread).symm

theorem parse_eq_ok_iff {text : String} {b : Bundle} : parse text = .ok b ↔
    readFrom read text = .ok b ∧ ¬(b.create2.isSome ∧ b.ownerSignature.isSome) := by
  unfold parse
  split
  next e h => simp [h]
  next c h =>
    split
    next hboth =>
      simp only [reduceCtorEq, h, Except.ok.injEq, false_iff]
      rintro ⟨rfl, hsingle⟩
      exact hsingle hboth
    next hsingle =>
      simp only [h, Except.ok.injEq, iff_self_and]
      rintro rfl
      exact hsingle

/-- What is written is read back, but for two authorizations, which are refused. However the text of a
bundle was spelled, writing the bundle again changes nothing of what it shows. -/
theorem written_bundle_is_read_back (b : Bundle) :
    (¬(b.create2.isSome ∧ b.ownerSignature.isSome) → parse b.render = .ok b) ∧
    (b.create2.isSome → b.ownerSignature.isSome → parse b.render = .error (.validation conflict)) ∧
    (∀ b', b.render = b'.render → b = b') ∧
    ∀ text, parse text = .ok b → ∃ b', parse b.render = .ok b' ∧ b' = b ∧ b'.decode = b.decode ∧
      b'.isSigned = b.isSigned ∧ b'.bindsKey = b.bindsKey ∧ b'.hash = b.hash ∧
      ∀ chain identity, b'.isApproved chain identity = b.isApproved chain identity := by
  refine ⟨?_, ?_, fun b' => render_injective, ?_⟩
  · intro hsingle
    rw [parse_render, if_neg hsingle]
  · intro hcreate2 howner
    rw [parse_render, if_pos ⟨hcreate2, howner⟩]
  · intro text h
    have hsingle := (parse_eq_ok_iff.mp h).2
    refine ⟨b, ?_, rfl, rfl, rfl, rfl, rfl, fun _ _ => rfl⟩
    rw [parse_render, if_neg hsingle]

def exampleUndecodable (create2 : Option Create2) : Bundle where
  payload := [0xab]
  signature := ⟨Bytes.zero 32, Bytes.zero 64⟩
  ownerSignature := some (.ethereum ⟨Bytes.zero 32, Bytes.zero 32, ⟨true, false⟩⟩)
  create2 := create2

theorem undecodable_bundle_is_read_back :
    let data : Create2 := ⟨Bytes.zero 20, Bytes.zero 32, Bytes.zero 32⟩
    let b := exampleUndecodable none
    let c := exampleUndecodable (some data)
    (¬(b.create2.isSome ∧ b.ownerSignature.isSome) ∧ parse b.render = .ok b) ∧
    ((c.create2.isSome ∧ c.ownerSignature.isSome) ∧
      parse c.render = .error (.validation conflict)) ∧
    (b.render = (exampleUndecodable none).render ∧ b = exampleUndecodable none) ∧
    ∃ b', parse b.render = .ok b' ∧ b' = b ∧ b'.decode = b.decode ∧
      b'.isSigned = b.isSigned ∧ b'.bindsKey = b.bindsKey ∧ b'.hash = b.hash ∧
      ∀ chain identity, b'.isApproved chain identity = b.isApproved chain identity := by
  intro data b c
  have hsingle : ¬(b.create2.isSome ∧ b.ownerSignature.isSome) := by simp [b, exampleUndecodable]
  obtain ⟨hparse, -, hinjective, hagain⟩ := written_bundle_is_read_back b
  have hrefused := (written_bundle_is_read_back c).2.1 rfl rfl
  exact ⟨⟨hsingle, hparse hsingle⟩, ⟨⟨rfl, rfl⟩, hrefused⟩, ⟨rfl, hinjective _ rfl⟩,
    hagain _ (hparse hsingle)⟩

end Bundle

end KeyChange
