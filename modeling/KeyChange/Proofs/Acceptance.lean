import KeyChange.Proofs.Fee
import KeyChange.Proofs.Layout

namespace KeyChange

namespace Bytes

theorem toNat_uint8 (b : Bytes 1) : (UInt8.ofNat b.toNat).toNat = b.toNat :=
  UInt8.toNat_ofNat_of_lt b.toNat_lt

theorem toNat_uint16 (b : Bytes 2) : (UInt16.ofNat b.toNat).toNat = b.toNat :=
  UInt16.toNat_ofNat_of_lt b.toNat_lt

theorem toNat_uint32 (b : Bytes 4) : (UInt32.ofNat b.toNat).toNat = b.toNat :=
  UInt32.toNat_ofNat_of_lt b.toNat_lt

end Bytes

namespace Transaction

variable {bytes : List UInt8}

/-- What has to hold of the numbers in the fields, in the order in which they are looked at, and the
error where it does not. -/
def rangeConditions (chain account subAccount token nonce : Nat) : List (Prop × EncodingFault) :=
  [(chain ≤ 31, .field ⟨"chainId", .exceeds chain 31⟩),
    (account ≤ 2 ^ (24 : Nat) - 1, .field ⟨"accountId", .exceeds account (2 ^ (24 : Nat) - 1)⟩),
    (account ≠ 1, .field ⟨"accountId", .globalAccount⟩),
    (subAccount ≤ 31, .field ⟨"subAccountId", .exceeds subAccount 31⟩),
    (¬(2 ≤ token ∧ token ≤ 16), .field ⟨"feeToken", .reservedToken 2 16⟩),
    (nonce ≠ 2 ^ (32 : Nat) - 1, .field ⟨"nonce", .notBelow nonce (2 ^ (32 : Nat) - 1)⟩)]

namespace Fields

theorem toNat_ne_iff_lt {b : Bytes 4} : b.toNat ≠ 2 ^ (32 : Nat) - 1 ↔ b.toNat < nonceLimit := by
  have := b.toNat_lt
  rw [nonceLimit]
  omega

theorem decode_reports (f : Fields) :
    Reports f.decode (rangeConditions f.chain.toNat f.account.toNat f.subAccount.toNat
      f.feeToken.toNat f.nonce.toNat) := by
  obtain ⟨fee, hfee⟩ := Fee.exists_unpack f.packedFee
  have hchain := (checkChain_reports (.ofNat f.chain.toNat)).mapError EncodingFault.field
  have haccount := (checkAccount_reports (.ofNat f.account.toNat)).mapError EncodingFault.field
  have hsubAccount :=
    (checkSubAccount_reports (.ofNat f.subAccount.toNat)).mapError EncodingFault.field
  have htoken :=
    (checkToken_toUInt32_reports (.ofNat f.feeToken.toNat)).mapError EncodingFault.field
  have hnonce := (checkNonce_reports (.ofNat f.nonce.toNat)).mapError EncodingFault.field
  -- the numbers are kept in words of the fields' widths
  rw [Bytes.toNat_uint8] at hchain hsubAccount
  rw [Bytes.toNat_uint32] at haccount hnonce
  rw [Bytes.toNat_uint16] at htoken
  rw [← propext toNat_ne_iff_lt] at hnonce
  rw [decode, hfee]
  exact hchain.bind fun _ _ => haccount.bind fun _ _ => hsubAccount.bind fun _ _ =>
    htoken.bind fun _ _ => hnonce.bind fun _ _ => .ok _

end Fields

/-- The number that the `width` bytes from `offset` on spell. -/
def number (bytes : List UInt8) (offset width : Nat) : Nat := ofBigEndian (slice bytes offset width)

def conditions (bytes : List UInt8) : List (Prop × EncodingFault) :=
  (bytes.length = 39, .length 39 bytes.length) ::
  (bytes[0]? = some 0x06, .typeByte (bytes.headD 0)) ::
  rangeConditions (number bytes 1 1) (number bytes 2 4) (number bytes 6 1) (number bytes 27 2)
    (number bytes 31 4)

theorem decode_reports (bytes : List UInt8) : Reports (decode bytes) (conditions bytes) := by
  refine .cons (fun hlen => ?_) decode_of_length_ne
  -- of 39 bytes there is a first one
  have hsize : bytes.length = size := hlen
  rw [← List.head?_eq_getElem?, head?_eq_headD hsize, Option.some.injEq, decode_of_length_eq hsize]
  refine .cons (fun htype => ?_) fun htype => if_neg htype
  have htype : bytes.headD 0 = typeByte := htype
  rw [if_pos htype]
  exact (fieldsOf bytes hsize).decode_reports

/-- Bytes are a transaction exactly if they are 39, the first is the type's, and the numbers at their
places are in range. All others are refused by the first of these conditions that does not hold, and
the fee's two bytes are never the reason, as any two bytes are a fee. No byte past the end is asked
for. -/
theorem decode_accepts_iff (bytes : List UInt8) :
    ((∃ tx, decode bytes = .ok tx) ↔
      bytes.length = 39 ∧ bytes[0]? = some 0x06 ∧ number bytes 1 1 ≤ 31 ∧
        number bytes 2 4 ≤ 2 ^ (24 : Nat) - 1 ∧ number bytes 2 4 ≠ 1 ∧ number bytes 6 1 ≤ 31 ∧
        ¬(2 ≤ number bytes 27 2 ∧ number bytes 27 2 ≤ 16) ∧
        number bytes 31 4 ≠ 2 ^ (32 : Nat) - 1) ∧
    (∀ e, (decode bytes).mapError Error.encoding = .error e ↔
      ∃ fault, FirstUnmet (conditions bytes) fault ∧ e = .encoding fault) ∧
    (∀ packed : Bytes 2, ∃ fee, Fee.unpack packed.toList = some fee) ∧
    decode bytes ≠ .error .feeOverflow ∧
    read? bytes = some (decode bytes) := by
  have h := decode_reports bytes
  refine ⟨?_, fun e => ?_, Fee.exists_unpack, fun hfee => ?_, read?_eq bytes⟩
  · rw [h.exists_ok_iff]
    simp only [conditions, rangeConditions, List.forall_mem_cons, List.not_mem_nil, false_imp_iff,
      implies_true, and_true]
  · rw [mapError_eq_error_iff]
    exact exists_congr fun fault => and_congr_left fun _ => h fault
  · obtain ⟨c, hc, hfault⟩ := h.exists_mem hfee
    simp only [conditions, rangeConditions, List.mem_cons, List.not_mem_nil, or_false] at hc
    rcases hc with rfl | rfl | rfl | rfl | rfl | rfl | rfl | rfl <;> cases hfault

end Transaction

end KeyChange
