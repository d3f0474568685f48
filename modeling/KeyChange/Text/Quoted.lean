import KeyChange.Text.Hidden

namespace KeyChange.Text

def hexNumeral (n : Nat) : String := String.ofList (Nat.toDigits 16 n)

/-- A character as it stands inside a text quoted by `quote`: the quote, the backslash and what cannot be
seen are escaped. -/
def escape (quote c : Char) : String :=
  if c = '\x00' then "\\0"
  else if c = '\t' then "\\t"
  else if c = '\r' then "\\r"
  else if c = '\n' then "\\n"
  else if c = '\\' || c = quote then "\\" ++ c.toString
  else if isHidden c then "\\u\x7b" ++ hexNumeral c.toNat ++ "\x7d"
  else c.toString

def quoted (s : String) : String :=
  "\"" ++ String.join (s.toList.map (escape '\"')) ++ "\""

def quotedChar (c : Char) : String := "'" ++ escape '\'' c ++ "'"

end KeyChange.Text
