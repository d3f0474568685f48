import KeyChange.Json.Number

namespace KeyChange.Json

inductive Fault
  | endInValue
  | endInArray
  | endInObject
  | endInString
  | expectedValue
  | expectedIdentifier
  | expectedColon
  | expectedArrayComma
  | expectedObjectComma
  | keyNotString
  | trailingComma
  | trailingCharacters
  | invalidNumber
  | numberOutOfRange
  | invalidEscape
  | controlCharacter
  | loneSurrogate
  | unfinishedSurrogate
  | tooDeep
deriving DecidableEq

def Fault.message : Fault → String
  | .endInValue => "EOF while parsing a value"
  | .endInArray => "EOF while parsing a list"
  | .endInObject => "EOF while parsing an object"
  | .endInString => "EOF while parsing a string"
  | .expectedValue => "expected value"
  | .expectedIdentifier => "expected ident"
  | .expectedColon => "expected `:`"
  | .expectedArrayComma => "expected `,` or `]`"
  | .expectedObjectComma => "expected `,` or `\x7d`"
  | .keyNotString => "key must be a string"
  | .trailingComma => "trailing comma"
  | .trailingCharacters => "trailing characters"
  | .invalidNumber => "invalid number"
  | .numberOutOfRange => "number out of range"
  | .invalidEscape => "invalid escape"
  | .controlCharacter => "control character (\\u0000-\\u001F) found while parsing a string"
  | .loneSurrogate => "lone leading surrogate in hex escape"
  | .unfinishedSurrogate => "unexpected end of hex escape"
  | .tooDeep => "recursion limit exceeded"

/-- A string or a number in the text: its value, or the first fault that reading it meets, and the
fault that stands even where it is only passed over. -/
structure Leaf (α : Type) where
  value : Except Fault α
  whenSkipped : Option Fault

namespace Leaf

variable {α β : Type}

def ofValue (a : α) : Leaf α := ⟨.ok a, none⟩

def broken (f : Fault) : Leaf α := ⟨.error f, some f⟩

def map (g : α → β) (l : Leaf α) : Leaf β := ⟨l.value.map g, l.whenSkipped⟩

/-- Refused when read, with a fault that stands before everything in `l`. -/
def refused (f : Fault) (l : Leaf α) : Leaf β := ⟨.error f, l.whenSkipped⟩

end Leaf

/-- How the items of an array or the members of an object come to an end. -/
inductive Ending
  | closed
  | commaThenClose
  | noComma
  | commaThenNoKey
  | endOfText
  | endAfterComma
  | hidden
deriving DecidableEq

/-- A JSON text as far as it is well formed. One that breaks off keeps what stands before the break, so
that a reader meets its own objections and the fault of the text in the order in which they stand. -/
inductive Document
  | null
  | bool (b : Bool)
  | number (n : Leaf Number)
  | string (s : Leaf String)
  | array (items : List Document) (ending : Ending)
  | object (members : List (Leaf String × Document)) (ending : Ending)
  /-- An object whose first key is no string: `first` stands in its place. -/
  | keyless (first : Document)
  /-- A word that sets out to be null, true or false. -/
  | misspelt (fault : Fault)
  | broken (fault : Fault)

namespace Ending

/-- What a reader of items meets after the last one. -/
def arrayFault? : Ending → Option Fault
  | .closed => none
  | .commaThenClose => some .trailingComma
  | .noComma => some .expectedArrayComma
  | .commaThenNoKey => some .expectedValue
  | .endOfText => some .endInArray
  | .endAfterComma => some .endInValue
  | .hidden => some .endInValue

def objectFault? : Ending → Option Fault
  | .closed => none
  | .commaThenClose => some .trailingComma
  | .noComma => some .expectedObjectComma
  | .commaThenNoKey => some .keyNotString
  | .endOfText => some .endInObject
  | .endAfterComma => some .endInValue
  | .hidden => some .endInValue

/-- What stands in the way of closing an array whose items are all taken. -/
def closingFault? : Ending → Option Fault
  | .closed => none
  | .commaThenClose => some .trailingComma
  | .endOfText => some .endInArray
  | _ => some .trailingCharacters

def skippedArrayFault? : Ending → Option Fault
  | .commaThenClose => some .expectedValue
  | e => e.arrayFault?

def skippedObjectFault? : Ending → Option Fault
  | .commaThenClose => some .keyNotString
  | .endAfterComma => some .endInObject
  | e => e.objectFault?

end Ending

namespace Document

mutual

def skipFault? : Document → Option Fault
  | .null => none
  | .bool _ => none
  | .number n => n.whenSkipped
  | .string s => s.whenSkipped
  | .array items ending => skipItems ending items
  | .object members ending => skipMembers ending members
  | .keyless _ => some .keyNotString
  | .misspelt f => some f
  | .broken f => some f

def skipItems (ending : Ending) : List Document → Option Fault
  | [] => ending.skippedArrayFault?
  | d :: ds => (skipFault? d).or (skipItems ending ds)

def skipMembers (ending : Ending) : List (Leaf String × Document) → Option Fault
  | [] => ending.skippedObjectFault?
  | (k, d) :: ms => k.whenSkipped.or ((skipFault? d).or (skipMembers ending ms))

end

/-- One array or object deeper; a reader does not go deeper than it may. -/
def descend : Nat → Except Fault Nat
  | 0 => .error .tooDeep
  | 1 => .error .tooDeep
  | depth + 2 => .ok (depth + 1)

mutual

/-- The document read in full. It comes out whole, or the first fault that reading it meets. -/
def readWhole (depth : Nat) : Document → Except Fault Document
  | .null => .ok .null
  | .bool b => .ok (.bool b)
  | .number n => n.value.map fun x => .number (.ofValue x)
  | .string s => s.value.map fun x => .string (.ofValue x)
  | .array items ending => do
    let depth ← descend depth
    let items ← readItems depth ending items
    return .array items .closed
  | .object members ending => do
    let depth ← descend depth
    let members ← readMembers depth ending members
    return .object members .closed
  | .keyless _ => do
    let _ ← descend depth
    .error .keyNotString
  | .misspelt f => .error f
  | .broken f => .error f

def readItems (depth : Nat) (ending : Ending) : List Document → Except Fault (List Document)
  | [] =>
    match ending.arrayFault? with
    | some f => .error f
    | none => .ok []
  | d :: ds => do
    let d ← readWhole depth d
    let ds ← readItems depth ending ds
    return d :: ds

def readMembers (depth : Nat) (ending : Ending) :
    List (Leaf String × Document) → Except Fault (List (Leaf String × Document))
  | [] =>
    match ending.objectFault? with
    | some f => .error f
    | none => .ok []
  | (k, d) :: ms => do
    let k ← k.value
    let d ← readWhole depth d
    let ms ← readMembers depth ending ms
    return (.ofValue k, d) :: ms

end

/-- The members as a table holds them: in the order of their keys, the last of each key. -/
def tableInsert (k : String) (d : Document) :
    List (Leaf String × Document) → List (Leaf String × Document)
  | [] => [(.ofValue k, d)]
  | (l, e) :: ms =>
    match l.value with
    | .error _ => (l, e) :: tableInsert k d ms
    | .ok j =>
      if k = j then (.ofValue k, d) :: ms
      else if k < j then (.ofValue k, d) :: (l, e) :: ms
      else (l, e) :: tableInsert k d ms

mutual

/-- The document as a value in memory holds it, where the members of an object are a table. -/
def stored : Document → Document
  | .array items ending => .array (storedItems items) ending
  | .object members ending =>
    .object ((storedMembers members).foldl (fun t (k, d) =>
      match k.value with
      | .ok k => tableInsert k d t
      | .error _ => t) []) ending
  | d => d

def storedItems : List Document → List Document
  | [] => []
  | d :: ds => stored d :: storedItems ds

def storedMembers : List (Leaf String × Document) → List (Leaf String × Document)
  | [] => []
  | (k, d) :: ms => (k, stored d) :: storedMembers ms

end

end Document

end KeyChange.Json
