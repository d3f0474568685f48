namespace KeyChange

-- Powers and zero are core's, whatever else is imported.
attribute [scoped instance (2000)] instPowNat Zero.ofOfNat0

/-- A string of exactly `n` bytes. -/
structure Bytes (n : Nat) where
  toList : List UInt8
  length_toList : toList.length = n
deriving DecidableEq

namespace Bytes

variable {m n : Nat}

@[ext] theorem ext {a b : Bytes n} (h : a.toList = b.toList) : a = b := by
  cases a
  cases b
  simp_all

def ofList? (n : Nat) (bs : List UInt8) : Option (Bytes n) :=
  if h : bs.length = n then some ⟨bs, h⟩ else none

theorem ofList?_eq_some_iff {bs : List UInt8} {b : Bytes n} :
    ofList? n bs = some b ↔ bs = b.toList := by
  constructor
  · intro h
    unfold ofList? at h
    split at h
    · cases h
      rfl
    · simp at h
  · rintro rfl
    simp [ofList?, b.length_toList]

@[simp] theorem ofList?_toList (b : Bytes n) : ofList? n b.toList = some b :=
  ofList?_eq_some_iff.mpr rfl

protected def append (a : Bytes m) (b : Bytes n) : Bytes (m + n) :=
  ⟨a.toList ++ b.toList, by simp [a.length_toList, b.length_toList]⟩

instance : HAppend (Bytes m) (Bytes n) (Bytes (m + n)) := ⟨Bytes.append⟩

@[simp] theorem toList_append (a : Bytes m) (b : Bytes n) :
    (a ++ b).toList = a.toList ++ b.toList := rfl

def front (b : Bytes (m + n)) : Bytes m :=
  ⟨b.toList.take m, by simp [b.length_toList]⟩

def back (b : Bytes (m + n)) : Bytes n :=
  ⟨b.toList.drop m, by simp [b.length_toList]⟩

@[simp] theorem front_append (a : Bytes m) (b : Bytes n) : (a ++ b).front = a := by
  ext1
  simp [front, a.length_toList]

@[simp] theorem back_append (a : Bytes m) (b : Bytes n) : (a ++ b).back = b := by
  ext1
  simp [back, a.length_toList]

@[simp] theorem front_append_back (b : Bytes (m + n)) : b.front ++ b.back = b := by
  ext1
  simp [front, back]

def zero (n : Nat) : Bytes n := ⟨List.replicate n 0, by simp⟩

end Bytes

/-- The last `width` base-256 digits of `n`, least significant first. -/
def littleEndian : (width n : Nat) → List UInt8
  | 0, _ => []
  | width + 1, n => UInt8.ofNat (n % 256) :: littleEndian width (n / 256)

@[simp] theorem length_littleEndian (width n : Nat) : (littleEndian width n).length = width := by
  induction width generalizing n with
  | zero => rfl
  | succ width ih => simp [littleEndian, ih]

def ofLittleEndian : List UInt8 → Nat
  | [] => 0
  | b :: bs => b.toNat + 256 * ofLittleEndian bs

theorem ofLittleEndian_lt (bs : List UInt8) : ofLittleEndian bs < 256 ^ bs.length := by
  induction bs with
  | nil => simp [ofLittleEndian]
  | cons b bs ih =>
    have := b.toNat_lt
    simp only [ofLittleEndian, List.length_cons, Nat.pow_succ]
    omega

theorem ofLittleEndian_littleEndian (width n : Nat) :
    ofLittleEndian (littleEndian width n) = n % 256 ^ width := by
  induction width generalizing n with
  | zero => simp [littleEndian, ofLittleEndian, Nat.mod_one]
  | succ width ih =>
    have h : (UInt8.ofNat (n % 256)).toNat = n % 256 := by simp
    rw [littleEndian, ofLittleEndian, ih, h, Nat.pow_succ, Nat.mul_comm (256 ^ width) 256,
      Nat.mod_mul]

theorem littleEndian_ofLittleEndian (bs : List UInt8) :
    littleEndian bs.length (ofLittleEndian bs) = bs := by
  induction bs with
  | nil => rfl
  | cons b bs ih =>
    have hb := b.toNat_lt
    have h1 : (b.toNat + 256 * ofLittleEndian bs) % 256 = b.toNat := by omega
    have h2 : (b.toNat + 256 * ofLittleEndian bs) / 256 = ofLittleEndian bs := by omega
    rw [List.length_cons, ofLittleEndian, littleEndian, h1, h2, ih, UInt8.ofNat_toNat]

/-- The last `width` base-256 digits of `n`, most significant first. -/
def bigEndian (width n : Nat) : List UInt8 := (littleEndian width n).reverse

@[simp] theorem length_bigEndian (width n : Nat) : (bigEndian width n).length = width := by
  simp [bigEndian]

def ofBigEndian (bs : List UInt8) : Nat := ofLittleEndian bs.reverse

theorem ofBigEndian_lt (bs : List UInt8) : ofBigEndian bs < 256 ^ bs.length := by
  simpa [ofBigEndian] using ofLittleEndian_lt bs.reverse

theorem ofBigEndian_bigEndian (width n : Nat) :
    ofBigEndian (bigEndian width n) = n % 256 ^ width := by
  simp [ofBigEndian, bigEndian, ofLittleEndian_littleEndian]

theorem bigEndian_ofBigEndian (bs : List UInt8) : bigEndian bs.length (ofBigEndian bs) = bs := by
  have h := littleEndian_ofLittleEndian bs.reverse
  rw [List.length_reverse] at h
  rw [bigEndian, ofBigEndian, h, List.reverse_reverse]

namespace Bytes

variable {n : Nat}

/-- The number that the bytes spell, most significant byte first. -/
def toNat (b : Bytes n) : Nat := ofBigEndian b.toList

def ofNat (n k : Nat) : Bytes n := ⟨bigEndian n k, length_bigEndian n k⟩

theorem toNat_lt (b : Bytes n) : b.toNat < 256 ^ n := by
  simpa [toNat, b.length_toList] using ofBigEndian_lt b.toList

theorem toNat_ofNat (k : Nat) : (ofNat n k).toNat = k % 256 ^ n := ofBigEndian_bigEndian n k

@[simp] theorem ofNat_toNat (b : Bytes n) : ofNat n b.toNat = b := by
  ext1
  have h := bigEndian_ofBigEndian b.toList
  rw [b.length_toList] at h
  exact h

theorem toNat_injective {a b : Bytes n} (h : a.toNat = b.toNat) : a = b := by
  rw [← ofNat_toNat a, h, ofNat_toNat]

end Bytes

end KeyChange
