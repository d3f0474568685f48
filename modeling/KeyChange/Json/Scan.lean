import KeyChange.Json.Document
import KeyChange.Hex

namespace KeyChange.Json

def isBlank (c : Char) : Bool := c = ' ' || c = '\n' || c = '\t' || c = '\r'

def skipBlank (cs : List Char) : List Char := cs.dropWhile isBlank

def hexValue? (c : Char) : Option Nat :=
  if c.toNat < 128 then Hex.digit? (UInt8.ofNat c.toNat) else none

def hexValue4? (a b c d : Char) : Option Nat :=
  match hexValue? a, hexValue? b, hexValue? c, hexValue? d with
  | some a, some b, some c, some d => some (((a * 16 + b) * 16 + c) * 16 + d)
  | _, _, _, _ => none

def isLeading (n : Nat) : Bool := 0xD800 ≤ n && n ≤ 0xDBFF

def isTrailing (n : Nat) : Bool := 0xDC00 ≤ n && n ≤ 0xDFFF

def pairChar (leading trailing : Nat) : Char :=
  Char.ofNat ((leading - 0xD800) * 0x400 + (trailing - 0xDC00) + 0x10000)

/-- Where four digits are missing, the text has ended if less than four bytes are left. -/
def shortEscape (rest : List Char) : Fault :=
  if (rest.flatMap String.utf8EncodeChar).length < 4 then .endInString else .invalidEscape

def escaped? : Char → Option Char
  | '\"' => some '\"'
  | '\\' => some '\\'
  | '/' => some '/'
  | 'b' => some '\x08'
  | 'f' => some '\x0c'
  | 'n' => some '\n'
  | 'r' => some '\r'
  | 't' => some '\t'
  | _ => none

/-- A leading surrogate that waits for its partner makes the string unreadable where something else
follows. -/
def refuseIf (waiting : Option Nat) (f : Fault) :
    Leaf (List Char) × Option (List Char) → Leaf (List Char) × Option (List Char)
  | (l, left) => if waiting.isSome then (l.refused f, left) else (l, left)

def prepend (c : Char) :
    Leaf (List Char) × Option (List Char) → Leaf (List Char) × Option (List Char)
  | (l, left) => (l.map (c :: ·), left)

/-- A string from after its opening quote to its closing quote; `waiting` is a leading surrogate
that stands just before. -/
def scanChars (waiting : Option Nat) : List Char → Leaf (List Char) × Option (List Char)
  | [] => (.broken .endInString, none)
  | ['\\'] => (.broken .endInString, none)
  | '\\' :: 'u' :: a :: b :: c :: d :: rest =>
    match hexValue4? a b c d with
    | none => (.broken .invalidEscape, none)
    | some n =>
      if isTrailing n then
        match waiting with
        | some m => prepend (pairChar m n) (scanChars none rest)
        | none => refuseIf (some n) .loneSurrogate (scanChars none rest)
      else if isLeading n then refuseIf waiting .loneSurrogate (scanChars (some n) rest)
      else refuseIf waiting .loneSurrogate (prepend (Char.ofNat n) (scanChars none rest))
  | '\\' :: c :: rest =>
    if c = 'u' then (.broken (shortEscape rest), none)
    else
      match escaped? c with
      | none => refuseIf waiting .unfinishedSurrogate (.broken .invalidEscape, none)
      | some e => refuseIf waiting .unfinishedSurrogate (prepend e (scanChars none rest))
  | c :: rest =>
    if c = '\"' then refuseIf waiting .unfinishedSurrogate (.ofValue [], some rest)
    else if c.toNat < 32 then
      refuseIf waiting .unfinishedSurrogate (.broken .controlCharacter, none)
    else refuseIf waiting .unfinishedSurrogate (prepend c (scanChars none rest))

def scanString (cs : List Char) : Leaf String × Option (List Char) :=
  let (l, left) := scanChars none cs
  (l.map String.ofList, left)

def isDigit (c : Char) : Bool := '0' ≤ c && c ≤ '9'

/-- A number that breaks off. Passing over it only says that it is no number. -/
def brokenNumber (rest : List Char) : Leaf Number × Option (List Char) :=
  (⟨.error (if rest.isEmpty then .endInValue else .invalidNumber), some .invalidNumber⟩, none)

/-- A literal that is complete. Its value may still be too large to be read. -/
def finishNumber (l : Number.Literal) (rest : List Char) : Leaf Number × Option (List Char) :=
  match Number.ofLiteral l with
  | some n => (.ofValue n, some rest)
  | none => (⟨.error .numberOutOfRange, none⟩, some rest)

def scanExponent (l : Number.Literal) : List Char → Leaf Number × Option (List Char)
  | [] => finishNumber l []
  | c :: rest =>
    if c = 'e' || c = 'E' then
      let (isDown, rest) :=
        match rest with
        | '+' :: rest => (false, rest)
        | '-' :: rest => (true, rest)
        | rest => (false, rest)
      let ds := rest.takeWhile isDigit
      let rest := rest.dropWhile isDigit
      if ds.isEmpty then brokenNumber rest
      else finishNumber { l with exponent := some (isDown, ds) } rest
    else finishNumber l (c :: rest)

def scanFraction (l : Number.Literal) : List Char → Leaf Number × Option (List Char)
  | '.' :: rest =>
    let ds := rest.takeWhile isDigit
    let rest := rest.dropWhile isDigit
    if ds.isEmpty then brokenNumber rest else scanExponent { l with fraction := some ds } rest
  | rest => scanExponent l rest

/-- A number from after its sign. A leading zero stands alone. -/
def scanNumber (isNegative : Bool) (cs : List Char) : Leaf Number × Option (List Char) :=
  let ds := cs.takeWhile isDigit
  let rest := cs.dropWhile isDigit
  match ds with
  | [] => brokenNumber rest
  | '0' :: _ :: _ => (.broken .invalidNumber, none)
  | ds => scanFraction ⟨isNegative, ds, none, none⟩ rest

def scanWord (d : Document) : (word : List Char) → List Char → Document × Option (List Char)
  | [], cs => (d, some cs)
  | _ :: _, [] => (.misspelt .endInValue, none)
  | w :: ws, c :: cs =>
    if w = c then scanWord d ws cs else (.misspelt .expectedIdentifier, none)

mutual

/-- A document and the text that is left, which is none where a fault keeps the rest from being read. -/
def scanDocument : (fuel : Nat) → List Char → Document × Option (List Char)
  | 0, _ => (.broken .tooDeep, none)
  | fuel + 1, cs =>
    match skipBlank cs with
    | [] => (.broken .endInValue, none)
    | c :: rest =>
      if c = 'n' then scanWord .null ['u', 'l', 'l'] rest
      else if c = 't' then scanWord (.bool true) ['r', 'u', 'e'] rest
      else if c = 'f' then scanWord (.bool false) ['a', 'l', 's', 'e'] rest
      else if c = '\"' then
        let (s, left) := scanString rest
        (.string s, left)
      else if c = '-' then
        let (n, left) := scanNumber true rest
        (.number n, left)
      else if isDigit c then
        let (n, left) := scanNumber false (c :: rest)
        (.number n, left)
      else if c = '[' then
        match skipBlank rest with
        | [] => (.array [] .endOfText, none)
        | ']' :: rest => (.array [] .closed, some rest)
        | rest =>
          let (items, ending, left) := scanItems fuel rest
          (.array items ending, left)
      else if c = '\x7b' then
        match skipBlank rest with
        | [] => (.object [] .endOfText, none)
        | '\x7d' :: rest => (.object [] .closed, some rest)
        | '\"' :: rest =>
          let (members, ending, left) := scanMembers fuel rest
          (.object members ending, left)
        | rest => (.keyless (scanDocument fuel rest).1, none)
      else (.broken .expectedValue, none)

def scanItems : (fuel : Nat) → List Char → List Document × Ending × Option (List Char)
  | 0, _ => ([.broken .tooDeep], .hidden, none)
  | fuel + 1, cs =>
    match scanDocument fuel cs with
    | (d, none) => ([d], .hidden, none)
    | (d, some rest) =>
      match skipBlank rest with
      | [] => ([d], .endOfText, none)
      | ']' :: rest => ([d], .closed, some rest)
      | ',' :: rest =>
        match skipBlank rest with
        | [] => ([d], .endAfterComma, none)
        | ']' :: _ => ([d], .commaThenClose, none)
        | rest =>
          let (ds, ending, left) := scanItems fuel rest
          (d :: ds, ending, left)
      | _ => ([d], .noComma, none)

def scanMembers : (fuel : Nat) → List Char →
    List (Leaf String × Document) × Ending × Option (List Char)
  | 0, _ => ([(.broken .tooDeep, .null)], .hidden, none)
  | fuel + 1, cs =>
    match scanString cs with
    | (k, none) => ([(k, .null)], .hidden, none)
    | (k, some rest) =>
      match skipBlank rest with
      | [] => ([(k, .broken .endInObject)], .hidden, none)
      | ':' :: rest =>
        match scanDocument fuel rest with
        | (d, none) => ([(k, d)], .hidden, none)
        | (d, some rest) =>
          match skipBlank rest with
          | [] => ([(k, d)], .endOfText, none)
          | '\x7d' :: rest => ([(k, d)], .closed, some rest)
          | ',' :: rest =>
            match skipBlank rest with
            | [] => ([(k, d)], .endAfterComma, none)
            | '\x7d' :: _ => ([(k, d)], .commaThenClose, none)
            | '\"' :: rest =>
              let (ms, ending, left) := scanMembers fuel rest
              ((k, d) :: ms, ending, left)
            | _ => ([(k, d)], .commaThenNoKey, none)
          | _ => ([(k, d)], .noComma, none)
      | _ => ([(k, .broken .expectedColon)], .hidden, none)

end

/-- The document at the front of a text. Each step of a scanner below the first takes a character
or goes from items to an item, so two units of fuel a character are enough. -/
def scan (cs : List Char) : Document × Option (List Char) := scanDocument (2 * cs.length + 2) cs

end KeyChange.Json
