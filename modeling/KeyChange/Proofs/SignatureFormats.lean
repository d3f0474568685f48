import KeyChange.Proofs.ApprovedBundle
import KeyChange.Proofs.BundleText
import KeyChange.Proofs.SignatureText
import KeyChange.Rollup.Key

namespace KeyChange

/-- The forms of a kind of signatures, with the readers of each. -/
structure SignatureFormat (α : Type) where
  toList : α → List UInt8
  ofList : List UInt8 → Except SignatureFault α
  hex : α → String
  ofHex : String → Except SignatureFault α
  toJson : α → Json.Value
  read : Json.Reader α

namespace SignatureFormat

variable {α : Type} {conditions : List UInt8 → List (Prop × SignatureFault)}

/-- Every form of the signature is read back, and its JSON both as a part of other values and as a text. -/
structure ReadsBack (f : SignatureFormat α) (x : α) : Prop where
  ofList_toList : f.ofList (f.toList x) = .ok x
  ofHex_hex : f.ofHex (f.hex x) = .ok x
  reads_toJson : Json.Reads f.read 1 (f.toJson x) x
  read_render : Json.readFrom f.read (f.toJson x).render = .ok x

/-- Bytes are a signature if and only if they meet the conditions, and the fault is that of the first which
they do not meet. -/
structure Exact (f : SignatureFormat α) (conditions : List UInt8 → List (Prop × SignatureFault)) :
    Prop where
  accepts : ∀ bytes, (∃ x, f.ofList bytes = .ok x) ↔ ∀ c ∈ conditions bytes, c.1
  refuses : ∀ bytes fault, f.ofList bytes = .error fault ↔ FirstUnmet (conditions bytes) fault
  toList_of_ofList : ∀ bytes x, f.ofList bytes = .ok x → f.toList x = bytes
  readsBack : ∀ x, f.ReadsBack x

theorem Exact.of_reports {toList : α → List UInt8} {ofList : List UInt8 → Except SignatureFault α}
    {hex : α → String} {ofHex : String → Except SignatureFault α} {toJson : α → Json.Value}
    {read : Json.Reader α} (reports : ∀ bytes, Reports (ofList bytes) (conditions bytes))
    (ofList_eq_ok_iff : ∀ bytes x, ofList bytes = .ok x ↔ bytes = toList x)
    (ofHex_hex : ∀ x, ofHex (hex x) = .ok x) (reads : ∀ x, Json.Reads read 1 (toJson x) x)
    (fits : ∀ x, (toJson x).Fits) :
    Exact ⟨toList, ofList, hex, ofHex, toJson, read⟩ conditions where
  accepts bytes := (reports bytes).exists_ok_iff
  refuses bytes := reports bytes
  toList_of_ofList bytes x h := ((ofList_eq_ok_iff bytes x).mp h).symm
  readsBack x :=
    { ofList_toList := (ofList_eq_ok_iff _ x).mpr rfl
      ofHex_hex := ofHex_hex x
      reads_toJson := reads x
      read_render := Json.readFrom_render (fits x) (by decide) (reads x) }

end SignatureFormat

namespace Ethereum.Signature

def format : SignatureFormat Signature := ⟨toList, ofList, hex, ofHex, fun x => .string x.hex, read⟩

theorem ofList_reports (bytes : List UInt8) : Reports (ofList bytes) [
    (bytes.length = 65, .length 65 bytes.length),
    (∃ v ∈ ([0, 1, 27, 28] : List UInt8), bytes.getLast? = some v,
      .recoveryByte (bytes.getLastD 0))] := by
  refine .cons (fun hlen => .cons (fun hlast => ?_) fun hother => ?_) fun hlen => dif_neg hlen
  · obtain ⟨x, hx⟩ := exists_toList_iff.mpr ⟨hlen, hlast⟩
    rw [ofList_eq_ok_iff.mpr hx]
    exact .ok x
  · have hlast : bytes.getLast? = some bytes[64] := by
      simp [List.getLast?_eq_getElem?, hlen]
    have hnone : Recovery.ofByte? bytes[64] = none := by
      cases hv : Recovery.ofByte? bytes[64] with
      | none => rfl
      | some v =>
        have hbyte := Recovery.ofByte?_eq_some_iff.mp hv
        exact absurd ⟨_, Recovery.exists_toByte_iff.mp ⟨v, hbyte⟩, hlast⟩ hother
    have hsize : bytes.length = size := hlen
    rw [List.getLastD_eq_getLast?, hlast]
    simp only [ofList, hsize, dite_true, hnone, Option.getD_some]

theorem toByte_of_sign {key : Key} {digest : Bytes 32} {x : Signature}
    (h : key.sign digest = .ok x) : x.v.toByte = 27 ∨ x.v.toByte = 28 := by
  obtain ⟨y, -, rfl⟩ := Key.sign_eq_ok_iff.mp h
  cases hodd : y.isOdd
  · exact Or.inl rfl
  · exact Or.inr rfl

end Ethereum.Signature

namespace Starknet.Signature

def format : SignatureFormat Signature := ⟨toList, ofList, hex, ofHex, fun x => .string x.hex, read⟩

theorem ofList_reports (bytes : List UInt8) : Reports (ofList bytes) [
    (bytes.length = 96, .length 96 bytes.length),
    (∀ word ∈ [bytes.take 32, (bytes.drop 32).take 32, bytes.drop 64],
      ofBigEndian word < 2 ^ (251 : Nat) + 17 * 2 ^ (192 : Nat) + 1, .aboveModulus)] := by
  refine .cons (fun hlen => .cons (fun hwords => ?_) fun hother => ?_) fun hlen => if_pos hlen
  · obtain ⟨x, hx⟩ := exists_toList_iff.mpr ⟨hlen, hwords⟩
    rw [ofList_eq_ok_iff.mpr hx]
    exact .ok x
  · cases h : ofList bytes with
    | ok x => exact absurd (exists_toList_iff.mp ⟨x, ofList_eq_ok_iff.mp h⟩).2 hother
    | error fault =>
      have hsize : bytes.length = size := hlen
      rw [ofList, if_neg (not_not_intro hsize)] at h
      split at h
      next => cases h
      next => exact h.symm

end Starknet.Signature

namespace Rollup.Signature

def format : SignatureFormat Signature := ⟨toList, ofList, hex, ofHex, toJson, read⟩

theorem ofList_eq_ok_iff {bytes : List UInt8} {x : Signature} :
    ofList bytes = .ok x ↔ bytes = x.toList := by
  constructor
  · intro h
    unfold ofList at h
    split at h
    next =>
      cases h
      exact (List.take_append_drop 32 bytes).symm
    next => cases h
  · rintro rfl
    have hkey := x.publicKey.length_toList
    have hsize : x.toList.length = size := by simp [toList, hkey, x.signature.length_toList, size]
    have hfirst : x.toList.take 32 = x.publicKey.toList := by simp [toList, hkey]
    have hrest : x.toList.drop 32 = x.signature.toList := List.drop_left' hkey
    simp only [ofList, hsize, hfirst, hrest, dite_true]

theorem ofList_reports (bytes : List UInt8) :
    Reports (ofList bytes) [(bytes.length = 96, .length 96 bytes.length)] := by
  refine .cons (fun hlen => ?_) fun hlen => dif_neg hlen
  have hsize : bytes.length = size := hlen
  rw [ofList, dif_pos hsize]
  exact .ok _

theorem ofHex_hex (x : Signature) : ofHex x.hex = .ok x := by
  rw [ofHex, hex, signatureBytes_prefixed]
  exact ofList_eq_ok_iff.mpr rfl

end Rollup.Signature

/-- The formats are exact. Bytes of an Ethereum signature are 65, with one of four recovery bytes at the end;
of a Starknet signature, three words below the modulus; of a rollup signature, any 96. Keys make signatures
of their formats, with a recovery byte of 27 or 28 on Ethereum. -/
theorem signature_formats_exact :
    Ethereum.Signature.format.Exact (fun bytes => [
      (bytes.length = 65, .length 65 bytes.length),
      (∃ v ∈ ([0, 1, 27, 28] : List UInt8), bytes.getLast? = some v,
        .recoveryByte (bytes.getLastD 0))]) ∧
    Starknet.Signature.format.Exact (fun bytes => [
      (bytes.length = 96, .length 96 bytes.length),
      (∀ word ∈ [bytes.take 32, (bytes.drop 32).take 32, bytes.drop 64],
        ofBigEndian word < 2 ^ (251 : Nat) + 17 * 2 ^ (192 : Nat) + 1, .aboveModulus)]) ∧
    Rollup.Signature.format.Exact (fun bytes => [(bytes.length = 96, .length 96 bytes.length)]) ∧
    (∀ (key : Ethereum.Key) digest, (∃ fault, key.sign digest = .error fault) ∨
      ∃ x, key.sign digest = .ok x ∧ (x.v.toByte = 27 ∨ x.v.toByte = 28) ∧
        Ethereum.Signature.format.ReadsBack x) ∧
    (∀ (key : Starknet.Key) hash, (∃ fault, key.sign hash = .error fault) ∨
      ∃ x, key.sign hash = .ok x ∧ Starknet.Signature.format.ReadsBack x) ∧
    ∀ (key : Rollup.Key) message, Rollup.Signature.format.ReadsBack (key.sign message) := by
  have hethereum := SignatureFormat.Exact.of_reports Ethereum.Signature.ofList_reports
    (fun _ _ => Ethereum.Signature.ofList_eq_ok_iff) Ethereum.Signature.ofHex_hex
    Ethereum.Signature.reads_hex fun _ => trivial
  have hstarknet := SignatureFormat.Exact.of_reports Starknet.Signature.ofList_reports
    (fun _ _ => Starknet.Signature.ofList_eq_ok_iff) Starknet.Signature.ofHex_hex
    Starknet.Signature.reads_hex fun _ => trivial
  have hrollup := SignatureFormat.Exact.of_reports Rollup.Signature.ofList_reports
    (fun _ _ => Rollup.Signature.ofList_eq_ok_iff) Rollup.Signature.ofHex_hex
    Rollup.Signature.reads_toJson fun _ => ⟨trivial, trivial, trivial⟩
  refine ⟨hethereum, hstarknet, hrollup, fun key digest => ?_, fun key hash => ?_, fun key message => ?_⟩
  · cases h : key.sign digest with
    | error fault => exact Or.inl ⟨fault, rfl⟩
    | ok x => exact Or.inr ⟨x, rfl, Ethereum.Signature.toByte_of_sign h, hethereum.readsBack x⟩
  · cases h : key.sign hash with
    | error fault => exact Or.inl ⟨fault, rfl⟩
    | ok x => exact Or.inr ⟨x, rfl, hstarknet.readsBack x⟩
  · exact hrollup.readsBack _

end KeyChange
