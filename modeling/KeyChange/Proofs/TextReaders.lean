import KeyChange.Proofs.HexDigits
import KeyChange.Proofs.JsonRecord
import KeyChange.Proofs.SignatureText

namespace KeyChange

variable {α : Type} {s : String} {bytes : List UInt8}

theorem Hex.Spells.unique {bytes' : List UInt8} (h : Spells s bytes) (h' : Spells s bytes') :
    bytes = bytes' := by
  have hread := decodePrefixed_eq_ok_iff.mpr h
  rw [decodePrefixed_eq_ok_iff.mpr h'] at hread
  exact (Except.ok.inj hread).symm

theorem Json.readText_eq_ok_iff {parse : String → Except String α} {o : Origin} {d : Document} {a : α}
    (hd : readString o d = .ok s) : readText parse o d = .ok a ↔ parse s = .ok a := by
  rw [readText, bind_eq_ok_iff]
  simp only [hd, Except.ok.injEq, exists_eq_left', mapError_eq_ok_iff]

theorem signatureBytes_eq_ok_iff : signatureBytes s = .ok bytes ↔ Hex.Spells s bytes := by
  unfold signatureBytes
  split
  next hnone =>
    refine iff_of_false (by simp) ?_
    rintro ⟨digits, hs, -⟩
    have hsome : Hex.unprefixed? s = some (.ofList digits) :=
      Hex.unprefixed?_eq_some_iff.mpr (by rw [hs, String.toList_ofList])
    cases hnone.symm.trans hsome
  next t ht =>
    have hs := Hex.unprefixed?_eq_some_iff.mp ht
    rw [mapError_eq_ok_iff, Hex.decode_eq_ok_iff, Hex.Spells, hs]
    constructor
    · exact fun h => ⟨_, rfl, h⟩
    · rintro ⟨_, ⟨⟩, h⟩
      exact h

/-- A text is read as a value if it spells the bytes of the value, whatever bytes those are. -/
theorem signatureBytes_bind_eq_ok_iff {ofList : List UInt8 → Except SignatureFault α}
    {toList : α → List UInt8} {x : α} (h : ∀ bytes, ofList bytes = .ok x ↔ bytes = toList x) :
    signatureBytes s >>= ofList = .ok x ↔ Hex.Spells s (toList x) := by
  simp only [bind_eq_ok_iff, signatureBytes_eq_ok_iff, h, exists_eq_right]

theorem Ethereum.Signature.ofHex_eq_ok_iff {x : Ethereum.Signature} :
    ofHex s = .ok x ↔ Hex.Spells s x.toList := by
  have hbind : ofHex s = signatureBytes s >>= ofList := by
    unfold ofHex
    cases signatureBytes s <;> rfl
  rw [hbind]
  exact signatureBytes_bind_eq_ok_iff fun _ => ofList_eq_ok_iff

theorem Starknet.Signature.ofHex_eq_ok_iff {x : Starknet.Signature} :
    ofHex s = .ok x ↔ Hex.Spells s x.toList := by
  have hbind : ofHex s = signatureBytes s >>= ofList := by
    unfold ofHex
    cases signatureBytes s <;> rfl
  rw [hbind]
  exact signatureBytes_bind_eq_ok_iff fun _ => ofList_eq_ok_iff

section Documents

variable {o : Json.Origin} {d : Json.Document}

theorem Ethereum.Signature.read_eq_ok_iff {x : Ethereum.Signature}
    (hd : Json.readString o d = .ok s) : read o d = .ok x ↔ ofHex s = .ok x := by
  rw [read, Json.readText_eq_ok_iff hd, mapError_eq_ok_iff]

theorem Starknet.Signature.read_eq_ok_iff {x : Starknet.Signature}
    (hd : Json.readString o d = .ok s) : read o d = .ok x ↔ ofHex s = .ok x := by
  rw [read, Json.readText_eq_ok_iff hd, mapError_eq_ok_iff]

theorem readPrefixedBytes_eq_ok_iff {n : Nat} {b : Bytes n} (hd : Json.readString o d = .ok s) :
    readPrefixedBytes n o d = .ok b ↔ Hex.Spells s b.toList := by
  simp only [readPrefixedBytes, Json.readText_eq_ok_iff hd, bind_eq_ok_iff, mapError_eq_ok_iff,
    Hex.decodeField_eq_ok_iff]
  constructor
  · rintro ⟨bytes, hbytes, h⟩
    split at h
    next => cases h
    next b' hsome =>
      cases h
      exact Bytes.ofList?_eq_some_iff.mp hsome ▸ hbytes
  · intro h
    exact ⟨b.toList, h, by rw [Bytes.ofList?_toList]⟩

end Documents

namespace Owner.Signature

theorem toList_ne (x : Ethereum.Signature) (y : Starknet.Signature) : x.toList ≠ y.toList := by
  intro h
  have hlen := congrArg List.length h
  rw [x.length_toList, y.length_toList] at hlen
  cases hlen

/-- The part of a bundle that shows a text as a signature of a scheme. -/
def labelled (scheme text : String) : Json.Value :=
  .object [("type", .string scheme), ("signature", .string text)]

theorem exists_readFrom_labelled {scheme : String} (h : schemes.contains scheme = true) (s : String) :
    ∃ o, Json.readFrom read (labelled scheme s).render =
      readContent scheme o (.string (.ofValue s)) := by
  have hdeep : (Json.Origin.text Json.maxDepth).Allows (0 + 1) := by
    rw [Json.Origin.Allows]
    decide
  have hfits : (labelled scheme s).Fits := ⟨trivial, trivial, trivial⟩
  have hread : ∃ o, o.Allows 0 ∧ read (.text Json.maxDepth) (labelled scheme s).document =
      readContent scheme o (.string (.ofValue s)) :=
    Json.exists_readAdjacent "TxLayer1Signature" (by decide) h hdeep
  obtain ⟨o, -, hread⟩ := hread
  exact ⟨o, (Json.readFrom_render_eq read hfits).trans hread⟩

theorem readFrom_ethereum_iff {x : Ethereum.Signature} :
    Json.readFrom read (labelled "EthereumSignature" s).render = .ok (.ethereum x) ↔
      Ethereum.Signature.ofHex s = .ok x := by
  obtain ⟨o, hread⟩ := exists_readFrom_labelled (show schemes.contains "EthereumSignature" by decide) s
  have hd : Json.readString o (.string (.ofValue s)) = .ok s := rfl
  rw [hread, readContent, if_pos rfl, map_eq_ok_iff]
  simp only [Ethereum.Signature.read_eq_ok_iff hd, ethereum.injEq, exists_eq_right]

theorem readFrom_starknet_iff {y : Starknet.Signature} :
    Json.readFrom read (labelled "StarkSignature" s).render = .ok (.starknet y) ↔
      Starknet.Signature.ofHex s = .ok y := by
  obtain ⟨o, hread⟩ := exists_readFrom_labelled (show schemes.contains "StarkSignature" by decide) s
  have hd : Json.readString o (.string (.ofValue s)) = .ok s := rfl
  rw [hread, readContent, if_neg (by decide), map_eq_ok_iff]
  simp only [Starknet.Signature.read_eq_ok_iff hd, starknet.injEq, exists_eq_right]

end Owner.Signature

namespace Request

theorem parseAuthorization_eq_ok_iff {a : Authorization} :
    parseAuthorization (some s) = .ok a ↔
      ∃ x : Owner.Signature, Hex.Spells s x.toList ∧ .signed x = a := by
  have hmap : parseAuthorization (some s) = (parseSignature s).map .signed := rfl
  simp only [hmap, map_eq_ok_iff, parseSignature_eq_ok_iff, Hex.decodePrefixed_eq_ok_iff]

theorem parseAuthorization_eq_signed_iff {x : Owner.Signature} :
    parseAuthorization (some s) = .ok (.signed x) ↔ Hex.Spells s x.toList := by
  simp only [parseAuthorization_eq_ok_iff, Authorization.signed.injEq, exists_eq_right]

theorem exists_parseAuthorization_iff :
    (∃ a, parseAuthorization (some s) = .ok a) ↔
      (∃ x, Ethereum.Signature.ofHex s = .ok x) ∨ ∃ y, Starknet.Signature.ofHex s = .ok y := by
  simp only [parseAuthorization_eq_ok_iff, Ethereum.Signature.ofHex_eq_ok_iff,
    Starknet.Signature.ofHex_eq_ok_iff]
  constructor
  · rintro ⟨_, x | y, hs, rfl⟩
    · exact Or.inl ⟨x, hs⟩
    · exact Or.inr ⟨y, hs⟩
  · rintro (⟨x, hs⟩ | ⟨y, hs⟩)
    · exact ⟨_, .ethereum x, hs, rfl⟩
    · exact ⟨_, .starknet y, hs, rfl⟩

end Request

/-- All readers of a text agree, and so do the readers of documents that hold it. As a signature, a request
takes it for what the readers of the two schemes take it for, of which one at most accepts it, and a bundle
takes it for the same under the name of the scheme. As the hash of a key, every reader takes it for the 20
bytes that it spells. -/
theorem readers_agree (s : String) :
    (∀ x, Request.parseAuthorization (some s) = .ok (.signed (.ethereum x)) ↔
      Ethereum.Signature.ofHex s = .ok x) ∧
    (∀ x, Request.parseAuthorization (some s) = .ok (.signed (.starknet x)) ↔
      Starknet.Signature.ofHex s = .ok x) ∧
    ((∃ e, Request.parseAuthorization (some s) = .error e) ↔
      (∃ fault, Ethereum.Signature.ofHex s = .error fault) ∧
        ∃ fault, Starknet.Signature.ofHex s = .error fault) ∧
    ¬((∃ x, Ethereum.Signature.ofHex s = .ok x) ∧ ∃ y, Starknet.Signature.ofHex s = .ok y) ∧
    (∀ x, Json.readFrom Owner.Signature.read
        (Owner.Signature.labelled "EthereumSignature" s).render = .ok (.ethereum x) ↔
      Ethereum.Signature.ofHex s = .ok x) ∧
    (∀ x, Json.readFrom Owner.Signature.read
        (Owner.Signature.labelled "StarkSignature" s).render = .ok (.starknet x) ↔
      Starknet.Signature.ofHex s = .ok x) ∧
    (∀ hash : Rollup.KeyHash,
      (Rollup.KeyHash.ofHex "newPkHash" s = .ok hash ↔ Hex.Spells s hash.toList) ∧
      (Rollup.KeyHash.ofHex "pubKeyHash" s = .ok hash ↔ Hex.Spells s hash.toList)) ∧
    ∀ o d, Json.readString o d = .ok s →
      (∀ x, Ethereum.Signature.read o d = .ok x ↔ Ethereum.Signature.ofHex s = .ok x) ∧
      (∀ x, Starknet.Signature.read o d = .ok x ↔ Starknet.Signature.ofHex s = .ok x) ∧
      ∀ hash : Rollup.KeyHash, Rollup.KeyHash.read o d = .ok hash ↔ Hex.Spells s hash.toList := by
  refine ⟨fun x => ?_, fun x => ?_, ?_, ?_, fun _ => Owner.Signature.readFrom_ethereum_iff,
    fun _ => Owner.Signature.readFrom_starknet_iff, fun hash => ?_, fun o d hd => ?_⟩
  · exact Request.parseAuthorization_eq_signed_iff.trans Ethereum.Signature.ofHex_eq_ok_iff.symm
  · exact Request.parseAuthorization_eq_signed_iff.trans Starknet.Signature.ofHex_eq_ok_iff.symm
  · simp only [exists_error_iff, Request.exists_parseAuthorization_iff, not_or]
  · rintro ⟨⟨x, hx⟩, y, hy⟩
    have hsame := (Ethereum.Signature.ofHex_eq_ok_iff.mp hx).unique
      (Starknet.Signature.ofHex_eq_ok_iff.mp hy)
    exact Owner.Signature.toList_ne x y hsame
  · exact ⟨Rollup.KeyHash.ofHex_eq_ok_iff, Rollup.KeyHash.ofHex_eq_ok_iff⟩
  · exact ⟨fun _ => Ethereum.Signature.read_eq_ok_iff hd, fun _ => Starknet.Signature.read_eq_ok_iff hd,
      fun _ => readPrefixedBytes_eq_ok_iff hd⟩

theorem hash_read_from_stored_string :
    let s := "0xd8D5FB6a6cAEf06aa3Dc2ABdcDC240987e5330fE"
    let hash : Rollup.KeyHash := ⟨[0xd8, 0xd5, 0xfb, 0x6a, 0x6c, 0xae, 0xf0, 0x6a, 0xa3, 0xdc, 0x2a, 0xbd,
      0xcd, 0xc2, 0x40, 0x98, 0x7e, 0x53, 0x30, 0xfe], rfl⟩
    let d := Json.Document.string (.ofValue s)
    Json.readString .memory d = .ok s ∧
    ((∀ x, Ethereum.Signature.read .memory d = .ok x ↔ Ethereum.Signature.ofHex s = .ok x) ∧
      (∀ x, Starknet.Signature.read .memory d = .ok x ↔ Starknet.Signature.ofHex s = .ok x) ∧
      (Rollup.KeyHash.read .memory d = .ok hash ↔ Hex.Spells s hash.toList)) ∧
    Hex.Spells s hash.toList := by
  intro s hash d
  have hd : Json.readString .memory d = .ok s := rfl
  obtain ⟨-, -, -, -, -, -, -, hread⟩ := readers_agree s
  obtain ⟨hethereum, hstarknet, hhash⟩ := hread .memory d hd
  have hspells : Hex.Spells s hash.toList := ⟨s.toList.drop 2, by decide, by decide⟩
  exact ⟨hd, ⟨hethereum, hstarknet, hhash hash⟩, hspells⟩

end KeyChange
