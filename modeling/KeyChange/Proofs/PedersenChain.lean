import KeyChange.Hash.Pedersen

namespace KeyChange.Pedersen

open Curve Stark

variable {a b : Felt} {xs ys : List Felt} {ps qs : List (Felt × Felt)}

def steps (first : Felt) : List Felt → List (Felt × Felt)
  | [] => []
  | x :: xs => (first, x) :: steps (hash first x) xs

/-- The pairs that are hashed for a list, that with its length included. -/
def hashedPairs (elements : List Felt) : List (Felt × Felt) :=
  steps 0 elements ++ [(chain 0 elements, residue elements.length)]

/-- Two different pairs have one hash, one from either list. -/
def Collide (ps qs : List (Felt × Felt)) : Prop :=
  ∃ p ∈ ps, ∃ q ∈ qs, p ≠ q ∧ hash p.1 p.2 = hash q.1 q.2

theorem chain_cons (first x : Felt) (xs : List Felt) :
    chain first (x :: xs) = chain (hash first x) xs := by
  rw [chain, chain, List.foldl_cons]

/-- Two different pairs of one hash are followed by the same pairs up to the end. -/
def Merge (ps qs : List (Felt × Felt)) : Prop :=
  ∃ ps' qs' p q rest, ps = ps' ++ p :: rest ∧ qs = qs' ++ q :: rest ∧ p ≠ q ∧
    hash p.1 p.2 = hash q.1 q.2

namespace Merge

theorem collide (h : Merge ps qs) : Collide ps qs := by
  obtain ⟨ps', qs', p, q, rest, rfl, rfl, hne, hhash⟩ := h
  exact ⟨p, by simp, q, by simp, hne, hhash⟩

theorem cons (p q : Felt × Felt) (h : Merge ps qs) : Merge (p :: ps) (q :: qs) := by
  obtain ⟨ps', qs', p', q', rest, rfl, rfl, hcollision⟩ := h
  exact ⟨p :: ps', q :: qs', p', q', rest, rfl, rfl, hcollision⟩

theorem append (h : Merge ps qs) (more : List (Felt × Felt)) : Merge (ps ++ more) (qs ++ more) := by
  obtain ⟨ps', qs', p, q, rest, rfl, rfl, hcollision⟩ := h
  exact ⟨ps', qs', p, q, rest ++ more, by simp, by simp, hcollision⟩

theorem map_getLast?_eq (h : Merge ps qs) :
    ps.getLast?.map (fun p => hash p.1 p.2) = qs.getLast?.map fun q => hash q.1 q.2 := by
  obtain ⟨ps', qs', p, q, rest, rfl, rfl, -, hhash⟩ := h
  rw [List.getLast?_append, List.getLast?_append, List.getLast?_cons, List.getLast?_cons]
  cases rest.getLast? with
  | none => exact congrArg some hhash
  | some r => rfl

end Merge

/-- Chains of one length that end in one value are the same from where they merge. -/
theorem chain_eq_or_merge (hlen : xs.length = ys.length) (h : chain a xs = chain b ys) :
    (a = b ∧ xs = ys) ∨ Merge (steps a xs) (steps b ys) := by
  induction xs generalizing a b ys with
  | nil =>
    obtain rfl := List.length_eq_zero_iff.mp hlen.symm
    exact Or.inl ⟨h, rfl⟩
  | cons x xs ih =>
    cases ys with
    | nil => simp at hlen
    | cons y ys =>
      rw [chain_cons, chain_cons] at h
      rcases ih (Nat.succ.inj hlen) h with ⟨hhash, rfl⟩ | hmerge
      · by_cases hpair : (a, x) = (b, y)
        · obtain ⟨rfl, rfl⟩ := Prod.mk.inj hpair
          exact Or.inl ⟨rfl, rfl⟩
        · -- nothing behind differs, so the collision is that of the pairs in front
          have hrest : steps (hash b y) xs = steps (hash a x) xs := by rw [hhash]
          exact Or.inr ⟨[], [], (a, x), (b, y), _, rfl, congrArg ((b, y) :: ·) hrest, hpair, hhash⟩
      · exact Or.inr (hmerge.cons _ _)

theorem residue_length_inj (hx : xs.length < modulus) (hy : ys.length < modulus) :
    (residue xs.length : Felt) = residue ys.length ↔ xs.length = ys.length := by
  constructor
  · intro h
    have hval := congrArg Fin.val h
    simpa [residue, Nat.mod_eq_of_lt hx, Nat.mod_eq_of_lt hy] using hval
  · exact congrArg residue

theorem hashList_eq_or_merge (hx : xs.length < modulus) (hy : ys.length < modulus)
    (h : hashList xs = hashList ys) : xs = ys ∨ Merge (hashedPairs xs) (hashedPairs ys) := by
  by_cases hlast : (chain 0 xs, (residue xs.length : Felt)) = (chain 0 ys, residue ys.length)
  · obtain ⟨hchain, hresidue⟩ := Prod.mk.inj hlast
    rcases chain_eq_or_merge ((residue_length_inj hx hy).mp hresidue) hchain with ⟨-, hsame⟩ | hmerge
    · exact Or.inl hsame
    · rw [hashedPairs, hashedPairs, hlast]
      exact Or.inr (hmerge.append _)
  · exact Or.inr ⟨_, _, _, _, [], rfl, rfl, hlast, h⟩

theorem hashList_eq_or_collide (hx : xs.length < modulus) (hy : ys.length < modulus)
    (h : hashList xs = hashList ys) : xs = ys ∨ Collide (hashedPairs xs) (hashedPairs ys) :=
  (hashList_eq_or_merge hx hy h).imp_right Merge.collide

theorem hashList_eq_of_merge (h : Merge (hashedPairs xs) (hashedPairs ys)) :
    hashList xs = hashList ys := by
  have hlast := h.map_getLast?_eq
  rw [hashedPairs, hashedPairs, List.getLast?_concat, List.getLast?_concat] at hlast
  exact Option.some.inj hlast

/-- Lists of different lengths have one hash only if what is hashed last collides. -/
theorem collide_of_length_ne (hx : xs.length < modulus) (hy : ys.length < modulus)
    (hlen : xs.length ≠ ys.length) (h : hashList xs = hashList ys) :
    Collide [(chain 0 xs, residue xs.length)] [(chain 0 ys, residue ys.length)] := by
  refine ⟨_, List.mem_singleton_self _, _, List.mem_singleton_self _, fun hpair => ?_, h⟩
  exact hlen ((residue_length_inj hx hy).mp (Prod.mk.inj hpair).2)

/-- Lists are told apart by their hashes but for collisions of pairs. Different lists of one hash are
hashed alike from the end back to two pairs that collide; if their lengths differ, these are the pairs
that hold the lengths. -/
theorem hashList_eq_iff_merge (hx : xs.length < 2 ^ (64 : Nat)) (hy : ys.length < 2 ^ (64 : Nat)) :
    (hashList xs = hashList ys ↔ xs = ys ∨ Merge (hashedPairs xs) (hashedPairs ys)) ∧
    (xs ≠ ys → hashList xs = hashList ys → Collide (hashedPairs xs) (hashedPairs ys)) ∧
    (xs.length ≠ ys.length → hashList xs = hashList ys →
      Collide [(chain 0 xs, residue xs.length)] [(chain 0 ys, residue ys.length)]) := by
  have hroom : 2 ^ (64 : Nat) < modulus := by decide
  have hx : xs.length < modulus := Nat.lt_trans hx hroom
  have hy : ys.length < modulus := Nat.lt_trans hy hroom
  refine ⟨⟨hashList_eq_or_merge hx hy, ?_⟩, ?_, collide_of_length_ne hx hy⟩
  · rintro (rfl | hmerge)
    · rfl
    · exact hashList_eq_of_merge hmerge
  · intro hne h
    exact (hashList_eq_or_collide hx hy h).resolve_left hne

theorem hashList_eq_iff_merge_of_zeros :
    let xs : List Felt := [0]
    let ys : List Felt := [0, 0]
    (xs.length < 2 ^ (64 : Nat) ∧ ys.length < 2 ^ (64 : Nat)) ∧
    (hashList xs = hashList ys ↔ xs = ys ∨ Merge (hashedPairs xs) (hashedPairs ys)) ∧
    (xs ≠ ys → hashList xs = hashList ys → Collide (hashedPairs xs) (hashedPairs ys)) ∧
    (xs.length ≠ ys.length → hashList xs = hashList ys →
      Collide [(chain 0 xs, residue xs.length)] [(chain 0 ys, residue ys.length)]) := by
  intro xs ys
  have hx : xs.length < 2 ^ (64 : Nat) := by decide
  have hy : ys.length < 2 ^ (64 : Nat) := by decide
  exact ⟨⟨hx, hy⟩, hashList_eq_iff_merge hx hy⟩

end KeyChange.Pedersen
