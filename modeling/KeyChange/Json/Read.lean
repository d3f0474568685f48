import KeyChange.Json.Scan
import KeyChange.Text.Quoted

namespace KeyChange.Json

inductive Found
  | null
  | bool (b : Bool)
  | number (n : Number)
  | string (s : String)
  | sequence
  | map

def Found.text : Found → String
  | .null => "null"
  | .bool b => "boolean `" ++ toString b ++ "`"
  | .number (.float isNegative x) =>
    "floating point `" ++ (Number.float isNegative x).text ++ "`"
  | .number n => "integer `" ++ n.text ++ "`"
  | .string s => "string " ++ Text.quoted s
  | .sequence => "sequence"
  | .map => "map"

inductive ReadError
  | malformed (fault : Fault)
  | wrongType (found : Found) (expected : String)
  | wrongValue (found : Found) (expected : String)
  | wrongLength (length : Nat) (expected : String)
  | duplicateField (name : String)
  | missingField (name : String)
  | unknownVariant (name : String) (known : List String)
  | refused (reason : String)

/-- Names between backticks: two joined by `or`, more after `one of`. -/
def alternatives : List String → String
  | [] => "there are no variants"
  | [a] => "expected `" ++ a ++ "`"
  | [a, b] => "expected `" ++ a ++ "` or `" ++ b ++ "`"
  | names => "expected one of " ++ ", ".intercalate (names.map fun a => "`" ++ a ++ "`")

def ReadError.message : ReadError → String
  | .malformed fault => fault.message
  | .wrongType found expected => "invalid type: " ++ found.text ++ ", expected " ++ expected
  | .wrongValue found expected => "invalid value: " ++ found.text ++ ", expected " ++ expected
  | .wrongLength length expected =>
    "invalid length " ++ toString length ++ ", expected " ++ expected
  | .duplicateField name => "duplicate field `" ++ name ++ "`"
  | .missingField name => "missing field `" ++ name ++ "`"
  | .unknownVariant name known => "unknown variant `" ++ name ++ "`, " ++ alternatives known
  | .refused reason => reason

/-- Where a document comes from: straight from a text, of which a reader may go `depth` levels deep;
from a value in memory; or from a part that was read in full before its type was known. -/
inductive Origin
  | text (depth : Nat)
  | memory
  | buffer
deriving DecidableEq

/-- A reader works from left to right and reports the first objection it meets, be it its own or a fault
of the text. -/
abbrev Reader (α : Type) := Origin → Document → Except ReadError α

def readLeaf {α : Type} (l : Leaf α) : Except ReadError α := l.value.mapError .malformed

def check (f : Option Fault) : Except ReadError Unit :=
  match f with
  | some f => .error (.malformed f)
  | none => .ok ()

def Origin.enter : Origin → Except ReadError Origin
  | .text depth =>
    match Document.descend depth with
    | .ok depth => .ok (.text depth)
    | .error f => .error (.malformed f)
  | o => .ok o

def mismatch {α : Type} (expected : String) (d : Document) : Except ReadError α :=
  match d with
  | .null => .error (.wrongType .null expected)
  | .bool b => .error (.wrongType (.bool b) expected)
  | .number n => do .error (.wrongType (.number (← readLeaf n)) expected)
  | .string s => do .error (.wrongType (.string (← readLeaf s)) expected)
  | .array _ _ => .error (.wrongType .sequence expected)
  | .object _ _ => .error (.wrongType .map expected)
  | .keyless _ => .error (.wrongType .map expected)
  | .misspelt f => .error (.malformed f)
  | .broken f => .error (.malformed f)

/-- A natural number below `bound`. No other number is taken for one, be it whole or not. -/
def readNatural (expected : String) (bound : Nat) : Reader (Fin bound) := fun _ d =>
  match d with
  | .number n => do
    match ← readLeaf n with
    | .natural k =>
      if h : k < bound then .ok ⟨k, h⟩ else .error (.wrongValue (.number (.natural k)) expected)
    | .negative k => .error (.wrongValue (.number (.negative k)) expected)
    | x => .error (.wrongType (.number x) expected)
  | d => mismatch expected d

def readUInt8 : Reader UInt8 := fun o d => (readNatural "u8" UInt8.size o d).map UInt8.ofFin

def readUInt16 : Reader UInt16 := fun o d => (readNatural "u16" UInt16.size o d).map UInt16.ofFin

def readUInt32 : Reader UInt32 := fun o d => (readNatural "u32" UInt32.size o d).map UInt32.ofFin

def readUInt64 : Reader UInt64 := fun o d => (readNatural "u64" UInt64.size o d).map UInt64.ofFin

def readString : Reader String := fun _ d =>
  match d with
  | .string s => readLeaf s
  | d => mismatch "a string" d

def readOption {α : Type} (r : Reader α) : Reader (Option α) := fun o d =>
  match d with
  | .null => .ok none
  | d => (r o d).map some

def readText {α : Type} (parse : String → Except String α) : Reader α := fun o d => do
  let s ← readString o d
  (parse s).mapError .refused

/-- A field of a record, and what is objected to in its value. -/
structure Field where
  name : String
  isOptional : Bool
  accepts : Reader Unit

def Field.required {α : Type} (name : String) (r : Reader α) : Field :=
  ⟨name, false, fun o d => (r o d).map fun _ => ()⟩

def Field.optional {α : Type} (name : String) (r : Reader α) : Field :=
  ⟨name, true, fun o d => (readOption r o d).map fun _ => ()⟩

/-- The values of a record's fields, each accepted by its field. -/
structure Record where
  origin : Origin
  fields : List (String × Document)

def elements (count : Nat) : String :=
  toString count ++ (if count = 1 then " element" else " elements")

/-- Members of an object in their order. Members of other names are passed over. -/
def readMembers (fields : List Field) (o : Origin) (ending : Ending) :
    List (String × Document) → List (Leaf String × Document) →
      Except ReadError (List (String × Document))
  | seen, [] => do
    check ending.objectFault?
    return seen
  | seen, (key, d) :: rest => do
    let key ← readLeaf key
    match fields.find? (·.name = key) with
    | none =>
      check d.skipFault?
      readMembers fields o ending seen rest
    | some field =>
      if (seen.lookup key).isSome then .error (.duplicateField key)
      else
        field.accepts o d
        readMembers fields o ending (seen ++ [(key, d)]) rest

/-- Items of an array, one for each field in turn. Optional fields may be absent at the end. -/
def readPositions (o : Origin) (expected : String) (count : Nat) (ending : Ending) :
    (position : Nat) → List Field → List Document → Except ReadError (List (String × Document))
  | position, [], rest =>
    match o with
    | .text _ =>
      if rest.isEmpty then do
        check ending.closingFault?
        return []
      else .error (.malformed .trailingCharacters)
    | .memory =>
      if rest.isEmpty then .ok []
      else .error (.wrongLength (position + rest.length) "fewer elements in array")
    | .buffer =>
      if rest.isEmpty then .ok []
      else .error (.wrongLength (position + rest.length) (elements position ++ " in sequence"))
  | position, field :: fields, [] => do
    check ending.arrayFault?
    if field.isOptional then readPositions o expected count ending (position + 1) fields []
    else .error (.wrongLength position (expected ++ " with " ++ elements count))
  | position, field :: fields, d :: rest => do
    field.accepts o d
    let values ← readPositions o expected count ending (position + 1) fields rest
    return (field.name, d) :: values

/-- A record: an object with the fields by name, or an array with the fields by position. -/
def readRecord (expected : String) (fields : List Field) (o : Origin) (d : Document) :
    Except ReadError Record :=
  match d with
  | .object members ending => do
    let o ← o.enter
    return ⟨o, ← readMembers fields o ending [] members⟩
  | .array items ending => do
    let o ← o.enter
    return ⟨o, ← readPositions o expected fields.length ending 0 fields items⟩
  | .keyless _ => do
    let _ ← o.enter
    .error (.malformed .keyNotString)
  | d => mismatch expected d

def Record.get {α : Type} (r : Record) (name : String) (read : Reader α) : Except ReadError α :=
  match r.fields.lookup name with
  | some d => read r.origin d
  | none => .error (.missingField name)

def Record.get? {α : Type} (r : Record) (name : String) (read : Reader α) :
    Except ReadError (Option α) :=
  match r.fields.lookup name with
  | some d => readOption read r.origin d
  | none => .ok none

def checkVariant (known : List String) (name : String) : Except ReadError String :=
  if known.contains name then .ok name else .error (.unknownVariant name known)

/-- The tag of a variant that stands among its fields, or first in an array. -/
def readTag (known : List String) : Reader String := fun _ d =>
  match d with
  | .string s => do checkVariant known (← readLeaf s)
  | d => mismatch "variant identifier" d

def readBuffered (o : Origin) (d : Document) : Except ReadError Document :=
  match o with
  | .text depth => (d.readWhole depth).mapError .malformed
  | _ => .ok d

def bufferItems (o : Origin) (ending : Ending) : List Document → Except ReadError (List Document)
  | [] => do
    check ending.arrayFault?
    return []
  | d :: ds => do
    let d ← readBuffered o d
    return d :: (← bufferItems o ending ds)

def bufferMembers (tagName : String) (known : List String) (o : Origin) (ending : Ending) :
    Option String → List (Leaf String × Document) →
      Except ReadError (Option String × List (Leaf String × Document))
  | tag, [] => do
    check ending.objectFault?
    return (tag, [])
  | tag, (key, d) :: rest => do
    let key ← readLeaf key
    if key = tagName then
      if tag.isSome then .error (.duplicateField tagName)
      else
        let tag ← readTag known o d
        bufferMembers tagName known o ending (some tag) rest
    else
      let d ← readBuffered o d
      let (tag, members) ← bufferMembers tagName known o ending tag rest
      return (tag, (.ofValue key, d) :: members)

/-- A variant whose tag stands among its fields, or first in an array: the tag, and the rest. -/
def readTagged (enumName tagName : String) (known : List String) (o : Origin) (d : Document) :
    Except ReadError (String × Document) :=
  match d with
  | .object members ending => do
    let o ← o.enter
    let (tag, members) ← bufferMembers tagName known o ending none members
    match tag with
    | some tag => return (tag, .object members .closed)
    | none => .error (.missingField tagName)
  | .array [] ending => do
    let _ ← o.enter
    check ending.arrayFault?
    .error (.missingField tagName)
  | .array (first :: items) ending => do
    let o ← o.enter
    let tag ← readTag known o first
    let items ← bufferItems o ending items
    return (tag, .array items .closed)
  | .keyless _ => do
    let _ ← o.enter
    .error (.malformed .keyNotString)
  | d => mismatch ("internally tagged enum " ++ enumName) d

/-- The rest of a variant that has no fields. Members are passed over, items are not taken. -/
def readNoFields (d : Document) : Except ReadError Unit :=
  match d with
  | .array (_ :: items) _ =>
    .error (.wrongLength (items.length + 1) (elements 0 ++ " in sequence"))
  | _ => .ok ()

/-- A name of a variant on its own: a string, or an object with null under the name. -/
def readVariant (known : List String) : Reader String := fun o d =>
  match o, d with
  | _, .string s => do checkVariant known (← readLeaf s)
  | .text _, .object [] ending => do
    let _ ← o.enter
    match ending with
    | .endOfText => .error (.malformed .endInObject)
    | _ => .error (.malformed .expectedValue)
  | .text _, .object ((key, d) :: rest) ending => do
    let _ ← o.enter
    let name ← checkVariant known (← readLeaf key)
    match d with
    | .null =>
      if rest.isEmpty ∧ ending = .closed then .ok name
      else if rest.isEmpty ∧ ending = .endOfText then .error (.malformed .endInObject)
      else .error (.malformed .expectedValue)
    | d => mismatch "unit" d
  | .text _, .keyless _ => do
    let _ ← o.enter
    .error (.malformed .keyNotString)
  | .text _, .broken f => .error (.malformed f)
  | .text _, _ => .error (.malformed .expectedValue)
  | _, .object [(key, d)] _ => do
    let name ← checkVariant known (← readLeaf key)
    match d with
    | .null => .ok name
    | d => mismatch "unit" d
  | _, .object _ _ => .error (.wrongValue .map "map with a single key")
  | _, d => mismatch "string or map" d

/-- Whether a document, passed over up to a key, ends there or goes on. -/
def nextMember (names : List String) :
    List (Leaf String × Document) →
      Except ReadError (Option (String × Document × List (Leaf String × Document)))
  | [] => .ok none
  | (key, d) :: rest => do
    let key ← readLeaf key
    if names.contains key then return some (key, d, rest)
    else
      check d.skipFault?
      nextMember names rest

/-- A variant whose tag and content stand side by side under two names, or as a pair. Under its
name the tag may be an object with null under it; in a pair it is a string. Content that stands
before the tag is read in full first. -/
def readAdjacent {α : Type} (enumName tagName contentName : String) (known : List String)
    (content : String → Reader α) : Reader α := fun o d =>
  let expected := "adjacently tagged enum " ++ enumName
  let names := [tagName, contentName]
  match d with
  | .object members ending => do
    let o ← o.enter
    let next := fun ms => do
      match ← nextMember names ms with
      | some m => return some m
      | none =>
        check ending.objectFault?
        return none
    let finish := fun (a : α) ms => do
      match ← next ms with
      | some (key, _, _) => .error (.duplicateField key)
      | none => return a
    match ← next members with
    | none => .error (.missingField tagName)
    | some (key, d, rest) =>
      if key = tagName then
        let tag ← readVariant known o d
        match ← next rest with
        | none => .error (.missingField contentName)
        | some (key, d, rest) =>
          if key = tagName then .error (.duplicateField tagName)
          else
            let a ← content tag o d
            finish a rest
      else
        let buffered ← readBuffered o d
        match ← next rest with
        | none => .error (.missingField tagName)
        | some (key, d, rest) =>
          if key = tagName then
            let tag ← readVariant known o d
            let a ← content tag .buffer buffered
            finish a rest
          else .error (.duplicateField contentName)
  | .array [] ending => do
    let _ ← o.enter
    check ending.arrayFault?
    .error (.wrongLength 0 expected)
  | .array [tag] ending => do
    let o ← o.enter
    let _ ← readTag known o tag
    check ending.arrayFault?
    .error (.wrongLength 1 expected)
  | .array (tag :: d :: rest) ending => do
    let o ← o.enter
    let tag ← readTag known o tag
    let a ← content tag o d
    let _ ← readPositions o expected 2 ending 2 [] rest
    return a
  | .keyless _ => do
    let _ ← o.enter
    .error (.malformed .keyNotString)
  | d => mismatch expected d

def maxDepth : Nat := 128

/-- Reads a text. Only blanks may follow the document. -/
def readFrom {α : Type} (r : Reader α) (text : String) : Except ReadError α := do
  let (d, left) := scan text.toList
  let a ← r (.text maxDepth) d
  if (skipBlank (left.getD [])).isEmpty then return a
  else .error (.malformed .trailingCharacters)

def readStored {α : Type} (r : Reader α) (d : Document) : Except ReadError α :=
  r .memory d.stored

end KeyChange.Json
