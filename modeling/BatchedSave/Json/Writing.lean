import BatchedSave.Document.Basic

/-!
# Writing JSON

The compact JSON text of a document: no blanks, fields in order, and in texts only quotes,
backslashes and controls escaped.
-/
namespace BatchedSave.Json

def hexDigit (n : Nat) : Char :=
  Nat.digitChar (n % 16)

def escaped (c : Char) : String :=
  if c = '"' then "\\\""
  else if c = '\\' then "\\\\"
  else if c = '\n' then "\\n"
  else if c = '\r' then "\\r"
  else if c = '\t' then "\\t"
  else if c.toNat = 8 then "\\b"
  else if c.toNat = 12 then "\\f"
  else if c.toNat < 32 then
    "\\u00" ++ String.ofList [hexDigit (c.toNat / 16), hexDigit c.toNat]
  else c.toString

def quoted (s : String) : String :=
  "\"" ++ String.join (s.toList.map escaped) ++ "\""

mutual

def write : Document → String
  | .null => "null"
  | .bool b => if b then "true" else "false"
  | .number n => n.text
  | .text s => quoted (s.getD "")
  | .bare word => quoted word
  | .list items => "[" ++ ",".intercalate (writeItems items) ++ "]"
  | .record entries => "\x7b" ++ ",".intercalate (writeEntries entries) ++ "\x7d"

def writeItems : List Document → List String
  | [] => []
  | d :: items => write d :: writeItems items

def writeEntries : List (Option String × Document) → List String
  | [] => []
  | entry :: entries => writeEntry entry :: writeEntries entries

def writeEntry : Option String × Document → String
  | (name, d) => quoted (name.getD "") ++ ":" ++ write d

end

/-- The JSON text of data. -/
def text {α : Type} [DocumentForm α] (a : α) : String :=
  write (toDocument a)

end BatchedSave.Json
