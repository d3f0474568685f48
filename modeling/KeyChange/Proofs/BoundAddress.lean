import KeyChange.Proofs.CarriedAuthorization

namespace KeyChange

/-- Two strings that a function does not tell apart. -/
def Collides {α : Type} (f : List UInt8 → α) (x y : List UInt8) : Prop := x ≠ y ∧ f x = f y

namespace Create2

variable {data data' : Create2} {key key' : List UInt8}

theorem saltPreimage_inj :
    data.saltPreimage key = data'.saltPreimage key' ↔ data.salt = data'.salt ∧ key = key' := by
  constructor
  · intro h
    obtain ⟨hsalt, hkey⟩ :=
      List.append_inj h (by rw [data.salt.length_toList, data'.salt.length_toList])
    exact ⟨Bytes.ext hsalt, hkey⟩
  · rintro ⟨hsalt, rfl⟩
    rw [saltPreimage, saltPreimage, hsalt]

theorem addressPreimage_inj :
    data.addressPreimage key = data'.addressPreimage key' ↔ data.creator = data'.creator ∧
      data.boundSalt key = data'.boundSalt key' ∧ data.codeHash = data'.codeHash := by
  constructor
  · intro h
    unfold addressPreimage at h
    obtain ⟨h, hcode⟩ := List.append_inj' h (by simp [Bytes.length_toList])
    obtain ⟨h, hsalt⟩ := List.append_inj' h (by simp [Bytes.length_toList])
    obtain ⟨-, hcreator⟩ := List.cons.inj h
    exact ⟨Bytes.ext hcreator, Bytes.ext hsalt, Bytes.ext hcode⟩
  · rintro ⟨hcreator, hsalt, hcode⟩
    rw [addressPreimage, addressPreimage, hcreator, hsalt, hcode]

/-- Addresses are the same for the same data and key, and else only by a collision: of the salts, with
all else the same, or of what is hashed for the addresses. -/
theorem address_eq_iff :
    data.address key = data'.address key' ↔ (data = data' ∧ key = key') ∨
      (data.creator = data'.creator ∧ data.codeHash = data'.codeHash ∧
        Collides Keccak.digest (data.saltPreimage key) (data'.saltPreimage key')) ∨
      Collides (lastTwenty ∘ Keccak.digest) (data.addressPreimage key)
        (data'.addressPreimage key') := by
  constructor
  · intro h
    by_cases haddress : data.addressPreimage key = data'.addressPreimage key'
    · obtain ⟨hcreator, hbound, hcode⟩ := addressPreimage_inj.mp haddress
      by_cases hsalt : data.saltPreimage key = data'.saltPreimage key'
      · obtain ⟨hsame, hkey⟩ := saltPreimage_inj.mp hsalt
        have hdata : data = data' := by
          cases data
          cases data'
          simp_all
        exact Or.inl ⟨hdata, hkey⟩
      · exact Or.inr (Or.inl ⟨hcreator, hcode, hsalt, hbound⟩)
    · exact Or.inr (Or.inr ⟨haddress, h⟩)
  · rintro (⟨rfl, rfl⟩ | ⟨hcreator, hcode, -, hbound⟩ | ⟨-, h⟩)
    · rfl
    · rw [address, address, addressPreimage_inj.mpr ⟨hcreator, hbound, hcode⟩]
    · exact h

end Create2

namespace Signer

variable {s : Signer} {tx : Transaction}

/-- A transaction is signed for an account exactly if the data and the new key derive its address, and
the bundle has all that is needed to derive it again. An address that is accepted for two different
pairs of data and key shows a collision in the salts or in the addresses. -/
theorem create2_bound_to_key (h : tx.Obtained) (data : Create2) (account : Ethereum.Address) :
    ((∃ b, s.signCreate2 tx data account = .ok b) ↔ data.address tx.keyHash.toList = account) ∧
    (∀ e, s.signCreate2 tx data account = .error e ↔ data.address tx.keyHash.toList ≠ account ∧
      e = .validation ⟨"create2Data", .otherAddress (data.address tx.keyHash.toList) account⟩) ∧
    ∀ b, s.signCreate2 tx data account = .ok b →
      (∃ tx', b.decode = .ok tx' ∧ tx'.authorization = .create2 data ∧ tx'.keyHash = tx.keyHash ∧
        data.address tx'.keyHash.toList = account) ∧
      ∀ (s' : Signer) (tx' : Transaction) (data' : Create2) (b' : Bundle),
        s'.signCreate2 tx' data' account = .ok b' →
        (data, tx.keyHash) ≠ (data', tx'.keyHash) →
        Collides Keccak.digest (data.saltPreimage tx.keyHash.toList)
          (data'.saltPreimage tx'.keyHash.toList) ∨
        Collides (lastTwenty ∘ Keccak.digest) (data.addressPreimage tx.keyHash.toList)
          (data'.addressPreimage tx'.keyHash.toList) := by
  refine ⟨?_, fun e => signCreate2_eq_error_iff, fun b hb => ?_⟩
  · simp only [signCreate2_eq_ok_iff, exists_and_left, exists_eq, and_true]
  · obtain ⟨haddress, rfl⟩ := signCreate2_eq_ok_iff.mp hb
    refine ⟨⟨_, decode_bundle h.valid, rfl, rfl, haddress⟩, fun s' tx' data' b' hb' hne => ?_⟩
    obtain ⟨haddress', -⟩ := signCreate2_eq_ok_iff.mp hb'
    obtain ⟨hdata, hkey⟩ | ⟨-, -, hsalts⟩ | haddresses :=
      Create2.address_eq_iff.mp (haddress.trans haddress'.symm)
    · exact absurd (Prod.ext hdata (Bytes.ext hkey)) hne
    · exact Or.inl hsalts
    · exact Or.inr haddresses

theorem create2_bound_to_example_key :
    let s := exampleSigner
    let tx := Transaction.exampleTransaction 0x01 0x40 10
    let data := exampleCreate2
    let account := data.address tx.keyHash.toList
    tx.Obtained ∧
    ((∃ b, s.signCreate2 tx data account = .ok b) ↔ data.address tx.keyHash.toList = account) ∧
    (∀ e, s.signCreate2 tx data account = .error e ↔ data.address tx.keyHash.toList ≠ account ∧
      e = .validation ⟨"create2Data", .otherAddress (data.address tx.keyHash.toList) account⟩) ∧
    ∀ b, s.signCreate2 tx data account = .ok b →
      (∃ tx', b.decode = .ok tx' ∧ tx'.authorization = .create2 data ∧ tx'.keyHash = tx.keyHash ∧
        data.address tx'.keyHash.toList = account) ∧
      ∀ (s' : Signer) (tx' : Transaction) (data' : Create2) (b' : Bundle),
        s'.signCreate2 tx' data' account = .ok b' →
        (data, tx.keyHash) ≠ (data', tx'.keyHash) →
        Collides Keccak.digest (data.saltPreimage tx.keyHash.toList)
          (data'.saltPreimage tx'.keyHash.toList) ∨
        Collides (lastTwenty ∘ Keccak.digest) (data.addressPreimage tx.keyHash.toList)
          (data'.addressPreimage tx'.keyHash.toList) := by
  intro s tx data account
  have hbytes : Transaction.decode (Transaction.exampleBytes 0x01 0x40) = .ok tx := rfl
  exact ⟨.decoded hbytes, create2_bound_to_key (.decoded hbytes) data account⟩

end Signer

end KeyChange
