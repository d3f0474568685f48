import KeyChange.Json.Read
import KeyChange.Proofs.JsonText
import KeyChange.Proofs.Outcome

namespace KeyChange.Json

variable {α β : Type}

/-- A reader may go `n` levels deep. -/
def Origin.Allows (n : Nat) : Origin → Prop
  | .text depth => n < depth
  | .memory => True
  | .buffer => True

theorem Origin.Allows.exists_enter {n : Nat} {o : Origin} (h : o.Allows (n + 1)) :
    ∃ o', o.enter = .ok o' ∧ o'.Allows n := by
  cases o with
  | text depth =>
    have hdepth : n + 1 < depth := h
    obtain ⟨k, rfl⟩ : ∃ k, depth = k + 2 := ⟨depth - 2, by omega⟩
    exact ⟨.text (k + 1), rfl, by simp only [Allows]; omega⟩
  | memory => exact ⟨_, rfl, trivial⟩
  | buffer => exact ⟨_, rfl, trivial⟩

/-- The reader takes the value for `a`, where it may go `n` levels deep. -/
def Reads (r : Reader α) (n : Nat) (v : Value) (a : α) : Prop :=
  ∀ o : Origin, o.Allows n → r o v.document = .ok a

section Leaves

variable {n : Nat} {s : String}

theorem reads_text {parse : String → Except String α} {a : α} (h : parse s = .ok a) :
    Reads (readText parse) n (.string s) a := by
  intro o ho
  show (parse s).mapError ReadError.refused = .ok a
  exact mapError_eq_ok_iff.mpr h

theorem reads_string : Reads readString n (.string s) s := fun _ _ => rfl

theorem document_string_ne_null (s : String) : (Value.string s).document ≠ .null := by
  simp [Value.document]

theorem reads_natural {bound : Nat} (expected : String) (k : Fin bound) :
    Reads (readNatural expected bound) n (.number k.val) k := by
  intro o ho
  simp only [readNatural, Value.document, readLeaf, Leaf.ofValue, mapError_ok, bind, Except.bind,
    k.isLt, dif_pos]

theorem reads_uint8 (x : UInt8) : Reads readUInt8 n (.number x.toNat) x :=
  fun o ho => congrArg (Except.map UInt8.ofFin) (reads_natural "u8" x.toFin o ho)

theorem reads_uint32 (x : UInt32) : Reads readUInt32 n (.number x.toNat) x :=
  fun o ho => congrArg (Except.map UInt32.ofFin) (reads_natural "u32" x.toFin o ho)

theorem reads_uint64 (x : UInt64) : Reads readUInt64 n (.number x.toNat) x :=
  fun o ho => congrArg (Except.map UInt64.ofFin) (reads_natural "u64" x.toFin o ho)

theorem reads_option {r : Reader α} {v : Value} {a : α} (hv : v.document ≠ .null)
    (h : Reads r n v a) : Reads (readOption r) n v (some a) := by
  intro o ho
  unfold readOption
  split
  next hnull => exact absurd hnull hv
  next => rw [h o ho]; rfl

end Leaves

section Records

variable {fields : List Field} {n : Nat} {o : Origin} {name : String}

theorem reads_required {r : Reader α} {v : Value} {a : α} (h : Reads r n v a) :
    Reads (Field.required name r).accepts n v () := by
  intro o ho
  show (r o v.document).map _ = .ok ()
  rw [h o ho]
  rfl

theorem reads_optional {r : Reader α} {v : Value} {a : α} (hv : v.document ≠ .null)
    (h : Reads r n v a) : Reads (Field.optional name r).accepts n v () := by
  intro o ho
  show (readOption r o v.document).map _ = .ok ()
  rw [reads_option hv h o ho]
  rfl

theorem readMembers_eq_ok (members seen : List (String × Document))
    (nodup : ((seen ++ members).map (·.1)).Nodup)
    (accepted : ∀ m ∈ members, ∃ field, fields.find? (·.name = m.1) = some field ∧
      field.accepts o m.2 = .ok ()) :
    readMembers fields o .closed seen (members.map fun m => (.ofValue m.1, m.2)) =
      .ok (seen ++ members) := by
  induction members generalizing seen with
  | nil =>
    rw [List.append_nil]
    rfl
  | cons m members ih =>
    obtain ⟨field, hfind, haccepts⟩ := accepted m List.mem_cons_self
    have hnew : seen.lookup m.1 = none := by
      rw [List.lookup_eq_none_iff]
      intro m' hm'
      rw [List.map_append, List.nodup_append] at nodup
      have hne := nodup.2.2 m'.1 (List.mem_map_of_mem hm') m.1 (by simp)
      simpa using Ne.symm hne
    -- What was taken goes to the end of what was seen, so the order is that of the text.
    have hrest := ih (seen ++ [m]) (by simpa using nodup)
      (fun m' hm' => accepted m' (List.mem_cons_of_mem _ hm'))
    rw [List.append_assoc, List.singleton_append] at hrest
    rw [List.map_cons, readMembers]
    simp only [readLeaf, Leaf.ofValue, mapError_ok, bind, Except.bind, hfind, hnew, haccepts]
    exact hrest

theorem memberDocuments_eq_map (ms : List (String × Value)) :
    Value.memberDocuments ms = ms.map fun m => (.ofValue m.1, m.2.document) := by
  induction ms with
  | nil => rfl
  | cons m ms ih =>
    obtain ⟨k, v⟩ := m
    rw [Value.memberDocuments, ih, List.map_cons]

def record (o : Origin) (ms : List (String × Value)) : Record :=
  ⟨o, ms.map fun m => (m.1, m.2.document)⟩

theorem exists_readRecord (expected : String) (h : o.Allows (n + 1)) (ms : List (String × Value))
    (nodup : (ms.map (·.1)).Nodup)
    (accepted : ∀ m ∈ ms, ∃ field, fields.find? (·.name = m.1) = some field ∧
      Reads field.accepts n m.2 ()) :
    ∃ o', o'.Allows n ∧
      readRecord expected fields o (Value.object ms).document = .ok (record o' ms) := by
  obtain ⟨o', henter, ho'⟩ := h.exists_enter
  refine ⟨o', ho', ?_⟩
  have hnodup : ((record o' ms).fields.map (·.1)).Nodup := by
    simpa [record, Function.comp_def] using nodup
  have haccepted : ∀ m ∈ (record o' ms).fields, ∃ field,
      fields.find? (·.name = m.1) = some field ∧ field.accepts o' m.2 = .ok () := by
    intro m hm
    obtain ⟨m', hm', rfl⟩ := List.mem_map.mp hm
    obtain ⟨field, hfind, haccepts⟩ := accepted m' hm'
    exact ⟨field, hfind, haccepts o' ho'⟩
  have hmembers := readMembers_eq_ok (record o' ms).fields [] hnodup haccepted
  have hdocuments : (record o' ms).fields.map (fun m => (Leaf.ofValue m.1, m.2)) =
      Value.memberDocuments ms := by
    rw [memberDocuments_eq_map, record, List.map_map]
    rfl
  rw [hdocuments] at hmembers
  rw [Value.document, readRecord]
  simp only [henter, bind, Except.bind, hmembers]
  rfl

theorem lookup_record (ms : List (String × Value)) :
    (record o ms).fields.lookup name = (ms.lookup name).map Value.document := by
  induction ms with
  | nil => rfl
  | cons m ms ih =>
    obtain ⟨k, v⟩ := m
    show List.lookup name ((k, v.document) :: _) = _
    rw [List.lookup_cons, List.lookup_cons]
    cases name == k with
    | true => rfl
    | false => exact ih

theorem get_record_bind {r : Reader α} {ms : List (String × Value)} {v : Value} {a : α}
    {f : α → Except ReadError β} (ho : o.Allows n) (hv : ms.lookup name = some v)
    (h : Reads r n v a) : (record o ms).get name r >>= f = f a := by
  have hget : (record o ms).get name r = .ok a := by
    unfold Record.get
    rw [lookup_record, hv]
    exact h o ho
  rw [hget]
  rfl

theorem get?_record_bind {r : Reader α} {ms : List (String × Value)} {toValue : α → Value}
    {a : Option α} {f : Option α → Except ReadError β} (ho : o.Allows n)
    (hv : ms.lookup name = a.map toValue) (hnull : ∀ x, (toValue x).document ≠ .null)
    (h : ∀ x, Reads r n (toValue x) x) : (record o ms).get? name r >>= f = f a := by
  have hget : (record o ms).get? name r = .ok a := by
    unfold Record.get?
    rw [lookup_record, hv]
    cases a with
    | none => rfl
    | some x => exact reads_option (hnull x) (h x) o ho
  rw [hget]
  rfl

theorem reads_record {expected : String} {f : Record → Except ReadError α}
    {ms : List (String × Value)} {a : α} (nodup : (ms.map (·.1)).Nodup)
    (accepted : ∀ m ∈ ms, ∃ field, fields.find? (·.name = m.1) = some field ∧
      Reads field.accepts n m.2 ())
    (hf : ∀ o, o.Allows n → f (record o ms) = .ok a) :
    Reads (fun o d => readRecord expected fields o d >>= f) (n + 1) (.object ms) a := by
  intro o ho
  obtain ⟨o', ho', hrecord⟩ := exists_readRecord expected ho ms nodup accepted
  show readRecord expected fields o _ >>= f = .ok a
  rw [hrecord]
  exact hf o' ho'

theorem nextMember_of_contains {names : List String} {k : String} (h : names.contains k = true)
    (d : Document) (rest : List (Leaf String × Document)) :
    nextMember names ((.ofValue k, d) :: rest) = .ok (some (k, d, rest)) := by
  simp only [nextMember, readLeaf, Leaf.ofValue, mapError_ok, bind, Except.bind, h, if_true]
  rfl

/-- A variant with its tag first and its content second is what its content is read as. -/
theorem exists_readAdjacent {content : String → Reader α} {tagName contentName tag : String}
    {known : List String} {v : Value} (enumName : String) (hne : contentName ≠ tagName)
    (hknown : known.contains tag = true) (ho : o.Allows (n + 1)) :
    ∃ o', o'.Allows n ∧ readAdjacent enumName tagName contentName known content o
      (Value.object [(tagName, .string tag), (contentName, v)]).document =
        content tag o' v.document := by
  obtain ⟨o', henter, ho'⟩ := ho.exists_enter
  refine ⟨o', ho', ?_⟩
  have hvariant : readVariant known o' (.string (.ofValue tag)) = .ok tag := by
    show checkVariant known tag = .ok tag
    rw [checkVariant, if_pos hknown]
  have htag : [tagName, contentName].contains tagName = true := by simp
  have hcontent : [tagName, contentName].contains contentName = true := by simp
  have hend : nextMember [tagName, contentName] [] = .ok none := rfl
  simp only [Value.document, Value.memberDocuments, readAdjacent, henter,
    nextMember_of_contains htag, nextMember_of_contains hcontent, hend, hvariant, hne,
    check, Ending.objectFault?, bind, Except.bind, pure, Except.pure, if_true, if_false]
  cases content tag o' v.document <;> rfl

theorem reads_adjacent {content : String → Reader α} {tagName contentName tag : String}
    {known : List String} {v : Value} {a : α} (enumName : String) (hne : contentName ≠ tagName)
    (hknown : known.contains tag = true) (h : Reads (content tag) n v a) :
    Reads (readAdjacent enumName tagName contentName known content) (n + 1)
      (.object [(tagName, .string tag), (contentName, v)]) a := by
  intro o ho
  obtain ⟨o', ho', hread⟩ := exists_readAdjacent enumName hne hknown ho
  rw [hread]
  exact h o' ho'

theorem reads_buffered_string {s : String} :
    Reads readBuffered n (.string s) (Value.string s).document := by
  intro o ho
  cases o <;> rfl

theorem bufferMembers_eq_ok {tagName : String} {known : List String} {tag : Option String}
    (ho : o.Allows n) (ms : List (String × Value)) (untagged : ∀ m ∈ ms, m.1 ≠ tagName)
    (buffered : ∀ m ∈ ms, Reads readBuffered n m.2 m.2.document) :
    bufferMembers tagName known o .closed tag (Value.memberDocuments ms) =
      .ok (tag, Value.memberDocuments ms) := by
  induction ms with
  | nil => rfl
  | cons m ms ih =>
    obtain ⟨k, v⟩ := m
    have hne : k ≠ tagName := untagged (k, v) List.mem_cons_self
    have hbuffered := buffered (k, v) List.mem_cons_self o ho
    have hrest := ih (fun m hm => untagged m (List.mem_cons_of_mem _ hm))
      fun m hm => buffered m (List.mem_cons_of_mem _ hm)
    simp only [Value.memberDocuments, bufferMembers, readLeaf, Leaf.ofValue, mapError_ok, bind,
      Except.bind, hne, if_false, hbuffered, hrest, pure, Except.pure]

/-- A variant with its tag first among its fields is what the rest of them is read as. -/
theorem reads_tagged {enumName tagName tag : String} {known : List String}
    {f : String × Document → Except ReadError α} {ms : List (String × Value)} {a : α}
    (hknown : known.contains tag = true) (untagged : ∀ m ∈ ms, m.1 ≠ tagName)
    (buffered : ∀ m ∈ ms, Reads readBuffered n m.2 m.2.document)
    (h : f (tag, (Value.object ms).document) = .ok a) :
    Reads (fun o d => readTagged enumName tagName known o d >>= f) (n + 1)
      (.object ((tagName, .string tag) :: ms)) a := by
  intro o ho
  obtain ⟨o', henter, ho'⟩ := ho.exists_enter
  have htag : readTag known o' (.string (.ofValue tag)) = .ok tag := by
    show checkVariant known tag = .ok tag
    rw [checkVariant, if_pos hknown]
  have hread : readTagged enumName tagName known o
      (Value.object ((tagName, .string tag) :: ms)).document =
        .ok (tag, (Value.object ms).document) := by
    have hmembers : bufferMembers tagName known o' .closed (some tag) (Value.memberDocuments ms) =
        .ok (some tag, Value.memberDocuments ms) := bufferMembers_eq_ok ho' ms untagged buffered
    have hkey : readLeaf (.ofValue tagName) = .ok tagName := rfl
    simp only [Value.document, Value.memberDocuments, readTagged, henter, bufferMembers, hkey, htag,
      hmembers, Option.isSome_none, Bool.false_eq_true, bind, Except.bind, pure, Except.pure, if_true,
      if_false]
  show readTagged enumName tagName known o _ >>= f = .ok a
  rw [hread]
  exact h

theorem readFrom_render_eq (r : Reader α) {v : Value} (hv : v.Fits) :
    readFrom r v.render = r (.text maxDepth) v.document := by
  simp only [readFrom, scan_render v hv, bind, Except.bind]
  cases r (.text maxDepth) v.document <;> rfl

/-- What was written is read back, by a reader that may go as deep as the value does. -/
theorem readFrom_render {r : Reader α} {v : Value} {a : α} (hv : v.Fits) (hn : n < maxDepth)
    (h : Reads r n v a) : readFrom r v.render = .ok a :=
  (readFrom_render_eq r hv).trans (h _ hn)

end Records

end KeyChange.Json
