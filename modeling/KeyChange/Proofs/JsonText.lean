import KeyChange.Proofs.JsonLeaf

namespace KeyChange.Json

namespace Value

mutual

/-- Numbers fit in 64 bits. -/
def Fits : Value → Prop
  | .null => True
  | .bool _ => True
  | .number n => n < UInt64.size
  | .string _ => True
  | .array items => ItemsFit items
  | .object members => MembersFit members

def ItemsFit : List Value → Prop
  | [] => True
  | v :: vs => Fits v ∧ ItemsFit vs

def MembersFit : List (String × Value) → Prop
  | [] => True
  | (_, v) :: ms => Fits v ∧ MembersFit ms

end

mutual

def document : Value → Document
  | .null => .null
  | .bool b => .bool b
  | .number n => .number (.ofValue (.natural n))
  | .string s => .string (.ofValue s)
  | .array items => .array (itemDocuments items) .closed
  | .object members => .object (memberDocuments members) .closed

def itemDocuments : List Value → List Document
  | [] => []
  | v :: vs => document v :: itemDocuments vs

def memberDocuments : List (String × Value) → List (Leaf String × Document)
  | [] => []
  | (k, v) :: ms => (.ofValue k, document v) :: memberDocuments ms

end

def memberText (k : String) (v : Value) (ms : List (String × Value)) : List Char :=
  k.toList.flatMap escape ++ '\"' :: ':' :: (print v ++ printMembers ms)

theorem printMembers_cons (k : String) (v : Value) (ms : List (String × Value)) :
    printMembers ((k, v) :: ms) = ',' :: '\"' :: memberText k v ms := by
  simp [printMembers, printString, memberText]

theorem print_object_cons (k : String) (v : Value) (ms : List (String × Value)) :
    print (.object ((k, v) :: ms)) = '\x7b' :: '\"' :: memberText k v ms := by
  simp [print, printString, memberText]

theorem memberText_append (k : String) (v : Value) (ms : List (String × Value)) (rest : List Char) :
    memberText k v ms ++ rest =
      k.toList.flatMap escape ++ '\"' :: ':' :: (print v ++ (printMembers ms ++ rest)) := by
  simp [memberText]

theorem length_print_lt_memberText (k : String) (v : Value) (ms : List (String × Value)) :
    (print v).length + (printMembers ms).length < (memberText k v ms).length := by
  simp [memberText]
  omega

theorem exists_print_eq_cons (v : Value) :
    ∃ c cs, v.print = c :: cs ∧ isBlank c = false ∧ c ≠ ']' := by
  cases v with
  | null => exact ⟨_, _, rfl, rfl, by decide⟩
  | bool b => cases b <;> exact ⟨_, _, rfl, rfl, by decide⟩
  | number n =>
    cases h : Nat.toDigits 10 n with
    | nil => exact absurd h Nat.toDigits_ne_nil
    | cons c cs =>
      have hc : isDigit c = true := isDigit_of_mem_toDigits (by rw [h]; exact List.mem_cons_self)
      refine ⟨c, cs, by rw [print, h], ?_, ?_⟩
      · exact isBlank_of_isDigit hc
      · rintro rfl
        simp [isDigit] at hc
  | string s => exact ⟨_, _, rfl, rfl, by decide⟩
  | array items => cases items <;> exact ⟨_, _, rfl, rfl, by decide⟩
  | object members => cases members <;> exact ⟨_, _, rfl, rfl, by decide⟩

theorem endsNumber_printItems (vs : List Value) (rest : List Char) :
    EndsNumber (printItems vs ++ rest) := by
  cases vs with
  | nil => exact endsNumber_cons (by simp) _
  | cons v vs => exact endsNumber_cons (by simp) _

theorem endsNumber_printMembers (ms : List (String × Value)) (rest : List Char) :
    EndsNumber (printMembers ms ++ rest) := by
  cases ms with
  | nil => exact endsNumber_cons (by simp) _
  | cons m ms => exact endsNumber_cons (by simp) _

end Value

open Value

theorem scanDocument_string (fuel : Nat) (cs : List Char) :
    scanDocument (fuel + 1) ('\"' :: cs) = (.string (scanString cs).1, (scanString cs).2) := rfl

theorem scanDocument_digit (fuel : Nat) {c : Char} (h : isDigit c = true) (cs : List Char) :
    scanDocument (fuel + 1) (c :: cs) =
      (.number (scanNumber false (c :: cs)).1, (scanNumber false (c :: cs)).2) := by
  have hn : c ≠ 'n' := by rintro rfl; simp [isDigit] at h
  have ht : c ≠ 't' := by rintro rfl; simp [isDigit] at h
  have hf : c ≠ 'f' := by rintro rfl; simp [isDigit] at h
  have hquote : c ≠ '\"' := by rintro rfl; simp [isDigit] at h
  have hminus : c ≠ '-' := by rintro rfl; simp [isDigit] at h
  simp [scanDocument, skipBlank_cons (isBlank_of_isDigit h), hn, ht, hf, hquote, hminus, h]

theorem scanDocument_array (fuel : Nat) {c : Char} (hblank : isBlank c = false) (hclose : c ≠ ']')
    (cs : List Char) : scanDocument (fuel + 1) ('[' :: c :: cs) =
      (.array (scanItems fuel (c :: cs)).1 (scanItems fuel (c :: cs)).2.1,
        (scanItems fuel (c :: cs)).2.2) := by
  have hopen : skipBlank ('[' :: c :: cs) = '[' :: c :: cs := skipBlank_cons rfl _
  have hdigit : isDigit '[' = false := rfl
  simp [scanDocument, hopen, hdigit, skipBlank_cons hblank, hclose]

theorem scanDocument_object (fuel : Nat) (cs : List Char) :
    scanDocument (fuel + 1) ('\x7b' :: '\"' :: cs) =
      (.object (scanMembers fuel cs).1 (scanMembers fuel cs).2.1, (scanMembers fuel cs).2.2) := rfl

theorem scanItems_comma {fuel : Nat} {cs rest : List Char} {c : Char} {d : Document}
    (h : scanDocument fuel cs = (d, some (',' :: c :: rest))) (hblank : isBlank c = false)
    (hclose : c ≠ ']') : scanItems (fuel + 1) cs =
      (d :: (scanItems fuel (c :: rest)).1, (scanItems fuel (c :: rest)).2) := by
  have hcomma : skipBlank (',' :: c :: rest) = ',' :: c :: rest := skipBlank_cons rfl _
  simp [scanItems, h, hcomma, skipBlank_cons hblank, hclose]

theorem scanItems_close {fuel : Nat} {cs rest : List Char} {d : Document}
    (h : scanDocument fuel cs = (d, some (']' :: rest))) :
    scanItems (fuel + 1) cs = ([d], .closed, some rest) := by
  rw [scanItems, h]
  rfl

theorem scanMembers_comma {fuel : Nat} {cs cs' rest : List Char} {k : Leaf String} {d : Document}
    (hkey : scanString cs = (k, some (':' :: cs')))
    (h : scanDocument fuel cs' = (d, some (',' :: '\"' :: rest))) : scanMembers (fuel + 1) cs =
      ((k, d) :: (scanMembers fuel rest).1, (scanMembers fuel rest).2) := by
  have hcolon : skipBlank (':' :: cs') = ':' :: cs' := skipBlank_cons rfl _
  rw [scanMembers, hkey]
  simp only [hcolon, h]
  rfl

theorem scanMembers_close {fuel : Nat} {cs cs' rest : List Char} {k : Leaf String} {d : Document}
    (hkey : scanString cs = (k, some (':' :: cs')))
    (h : scanDocument fuel cs' = (d, some ('\x7d' :: rest))) :
    scanMembers (fuel + 1) cs = ([(k, d)], .closed, some rest) := by
  have hcolon : skipBlank (':' :: cs') = ':' :: cs' := skipBlank_cons rfl _
  rw [scanMembers, hkey]
  simp only [hcolon, h]
  rfl

mutual

/-- The text of a value is scanned as its document, and what follows is left. One unit of fuel a
character is enough. -/
theorem scanDocument_print (v : Value) (hv : v.Fits) (fuel : Nat) (hfuel : v.print.length ≤ fuel)
    (rest : List Char) (hrest : EndsNumber rest) :
    scanDocument fuel (v.print ++ rest) = (v.document, some rest) := by
  cases fuel with
  | zero =>
    obtain ⟨c, cs, hprint, -⟩ := exists_print_eq_cons v
    simp [hprint] at hfuel
  | succ fuel =>
    match v with
    | .null => rfl
    | .bool true => rfl
    | .bool false => rfl
    | .number n =>
      have hscan := scanNumber_toDigits hv hrest
      cases hdigits : Nat.toDigits 10 n with
      | nil => exact absurd hdigits Nat.toDigits_ne_nil
      | cons c cs =>
        have hc : isDigit c = true :=
          isDigit_of_mem_toDigits (by rw [hdigits]; exact List.mem_cons_self)
        rw [hdigits, List.cons_append] at hscan
        rw [print, hdigits, List.cons_append, scanDocument_digit fuel hc, hscan, document]
    | .string s =>
      have htext : print (.string s) ++ rest =
          '\"' :: (s.toList.flatMap escape ++ '\"' :: rest) := by
        simp [print, printString]
      rw [htext, scanDocument_string, scanString_printed, document]
    | .array [] => rfl
    | .array (v :: vs) =>
      -- The first character of an item shows that the array is not empty.
      have hitems := scanItems_print (v :: vs) hv fuel rest (print v ++ printItems vs) rfl
        (by simpa [print] using hfuel)
      obtain ⟨c, cs, hprint, hblank, hclose⟩ := exists_print_eq_cons v
      rw [hprint, List.cons_append, List.cons_append] at hitems
      have htext : print (.array (v :: vs)) ++ rest = '[' :: c :: (cs ++ printItems vs ++ rest) := by
        simp [print, hprint]
      rw [htext, scanDocument_array fuel hblank hclose, hitems, document]
    | .object [] => rfl
    | .object ((k, v) :: ms) =>
      rw [print_object_cons] at hfuel ⊢
      have hlength : (memberText k v ms).length ≤ fuel := by
        simp only [List.length_cons] at hfuel
        omega
      have hmembers := scanMembers_print ((k, v) :: ms) hv fuel rest _ (printMembers_cons k v ms) hlength
      rw [List.cons_append, List.cons_append, scanDocument_object, hmembers, document]

theorem scanItems_print (vs : List Value) (hvs : ItemsFit vs) (fuel : Nat) (rest text : List Char)
    (htext : printItems vs = ',' :: text) (hfuel : text.length ≤ fuel) :
    scanItems fuel (text ++ rest) = (itemDocuments vs, .closed, some rest) := by
  -- The text is that of the items without the comma in front.
  match vs with
  | [] => simp [printItems] at htext
  | v :: vs =>
    obtain rfl : text = print v ++ printItems vs := (List.cons.inj htext).2.symm
    cases fuel with
    | zero =>
      obtain ⟨c, cs, hprint, -⟩ := exists_print_eq_cons v
      simp [hprint] at hfuel
    | succ fuel =>
      have hlength : (print v).length ≤ fuel := by
        cases vs <;> simp [printItems] at hfuel <;> omega
      have hitem := scanDocument_print v hvs.1 fuel hlength (printItems vs ++ rest)
        (endsNumber_printItems vs rest)
      rw [List.append_assoc]
      match vs with
      | [] => exact scanItems_close hitem
      | v' :: vs =>
        have hitems := scanItems_print (v' :: vs) hvs.2 fuel rest (print v' ++ printItems vs) rfl
          (by simp [printItems] at hfuel ⊢; omega)
        obtain ⟨c, cs, hprint, hblank, hclose⟩ := exists_print_eq_cons v'
        rw [hprint, List.cons_append, List.cons_append] at hitems
        have htext : printItems (v' :: vs) ++ rest = ',' :: c :: (cs ++ printItems vs ++ rest) := by
          simp [printItems, hprint]
        rw [htext] at hitem ⊢
        rw [scanItems_comma hitem hblank hclose, hitems]
        rfl

theorem scanMembers_print (ms : List (String × Value)) (hms : MembersFit ms) (fuel : Nat)
    (rest text : List Char) (htext : printMembers ms = ',' :: '\"' :: text)
    (hfuel : text.length ≤ fuel) :
    scanMembers fuel (text ++ rest) = (memberDocuments ms, .closed, some rest) := by
  match ms with
  | [] => simp [printMembers] at htext
  | (k, v) :: ms =>
    rw [printMembers_cons] at htext
    obtain rfl : text = memberText k v ms := (List.cons.inj (List.cons.inj htext).2).2.symm
    have hlength := length_print_lt_memberText k v ms
    cases fuel with
    | zero => omega
    | succ fuel =>
      have hkey := scanString_printed k (':' :: (print v ++ (printMembers ms ++ rest)))
      have hmember := scanDocument_print v hms.1 fuel (by omega) (printMembers ms ++ rest)
        (endsNumber_printMembers ms rest)
      rw [memberText_append]
      match ms with
      | [] => exact scanMembers_close hkey hmember
      | (k', v') :: ms =>
        rw [printMembers_cons] at hkey hmember hlength ⊢
        have hmembers := scanMembers_print ((k', v') :: ms) hms.2 fuel rest _
          (printMembers_cons k' v' ms) (by simp only [List.length_cons] at hlength; omega)
        rw [List.cons_append, List.cons_append] at hkey hmember ⊢
        rw [scanMembers_comma hkey hmember, hmembers]
        rfl

end

theorem scan_render (v : Value) (hv : v.Fits) :
    scan v.render.toList = (v.document, some []) := by
  have hlength : v.print.length ≤ 2 * v.print.length + 2 := by omega
  have hscan := scanDocument_print v hv _ hlength [] endsNumber_nil
  rw [List.append_nil] at hscan
  rw [render, String.toList_ofList, scan]
  exact hscan

end KeyChange.Json
