import KeyChange.Hex

namespace KeyChange.Json

/-- A JSON value. Its numbers are natural numbers, since no other is written. -/
inductive Value
  | null
  | bool (b : Bool)
  | number (n : Nat)
  | string (s : String)
  | array (items : List Value)
  | object (members : List (String × Value))

namespace Value

/-- A character as it stands inside a string. Control characters without a short escape are written
by number. -/
def escape (c : Char) : List Char :=
  if c = '\"' then ['\\', '\"']
  else if c = '\\' then ['\\', '\\']
  else if c = '\x08' then ['\\', 'b']
  else if c = '\t' then ['\\', 't']
  else if c = '\n' then ['\\', 'n']
  else if c = '\x0c' then ['\\', 'f']
  else if c = '\r' then ['\\', 'r']
  else if c.toNat < 32 then
    ['\\', 'u', '0', '0', Hex.digitChar (c.toNat / 16), Hex.digitChar (c.toNat % 16)]
  else [c]

def printString (s : String) : List Char := '\"' :: s.toList.flatMap escape ++ ['\"']

mutual

def print : Value → List Char
  | .null => ['n', 'u', 'l', 'l']
  | .bool true => ['t', 'r', 'u', 'e']
  | .bool false => ['f', 'a', 'l', 's', 'e']
  | .number n => Nat.toDigits 10 n
  | .string s => printString s
  | .array [] => ['[', ']']
  | .array (v :: vs) => '[' :: print v ++ printItems vs
  | .object [] => ['\x7b', '\x7d']
  | .object ((k, v) :: ms) => '\x7b' :: printString k ++ ':' :: print v ++ printMembers ms

def printItems : List Value → List Char
  | [] => [']']
  | v :: vs => ',' :: print v ++ printItems vs

def printMembers : List (String × Value) → List Char
  | [] => ['\x7d']
  | (k, v) :: ms => ',' :: printString k ++ ':' :: print v ++ printMembers ms

end

/-- Without blanks, members in the order given. -/
def render (v : Value) : String := String.ofList v.print

end Value

end KeyChange.Json
