import BatchedSave.Text.Printable

/-!
# Quoted texts

How diagnostics quote a text so that it stays on one line and every character can be told: quotes
and backslashes are escaped, and so is everything that would not be visible by itself.
-/
namespace BatchedSave.Text

/-- A code point in hexadecimal, without leading zeros. -/
def codePoint (c : Char) : String :=
  "\\u\x7b" ++ String.ofList (Nat.toDigits 16 c.toNat) ++ "\x7d"

def escaped (c : Char) : String :=
  if c = '"' then "\\\""
  else if c = '\\' then "\\\\"
  else if c = '\n' then "\\n"
  else if c = '\r' then "\\r"
  else if c = '\t' then "\\t"
  else if c.toNat = 0 then "\\0"
  else if isExtending c || !isPrintable c then codePoint c
  else c.toString

def quoted (s : String) : String :=
  "\"" ++ String.join (s.toList.map escaped) ++ "\""

end BatchedSave.Text
