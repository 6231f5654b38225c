import BatchedSave.Toml.Table
import BatchedSave.Toml.Text
import BatchedSave.Toml.Word

/-!
# Reading TOML

The document of a TOML text, as version 1.1 of the format has it: line breaks, comments and a last
comma are allowed in inline tables as they are in lists, also around an equals sign but not within
a key.
-/
namespace BatchedSave.Toml

/-- Passes over a comment if there is one. -/
def comment? : List Char → Option (List Char)
  | '#' :: cs =>
    let ends (c : Char) : Bool := c = '\n' || c = '\r'
    if (cs.takeWhile (!ends ·)).any isControl then none else some (cs.dropWhile (!ends ·))
  | cs => some cs

/-- Passes over blanks and a comment up to the end of the line. -/
def lineEnd? (cs : List Char) : Option (List Char) := do
  match ← comment? (skipBlanks cs) with
  | [] => some []
  | cs => newline? cs

/-- Passes over blanks, line breaks and comments. -/
def gap? : Nat → List Char → Option (List Char)
  | 0, cs => some cs
  | fuel + 1, cs => do
    let cs ← comment? (skipBlanks cs)
    match newline? cs with
    | some cs => gap? fuel cs
    | none => some cs

/-- Passes over what may stand around an equals sign: in a table of its own line blanks only, in an
inline table line breaks and comments as well. -/
def aroundEquals? (inTable : Bool) (cs : List Char) : Option (List Char) :=
  if inTable then gap? cs.length cs else some (skipBlanks cs)

mutual

/-- A value. At most `room` brackets may be open at once; `fuel` is for the length of the text. -/
def value? (room : Nat) : Nat → List Char → Option (Document × List Char)
  | 0, _ => none
  | fuel + 1, cs =>
    match cs with
    | '[' :: cs =>
      if room = 0 then none
      else do
        let (items, rest) ← items? (room - 1) fuel cs
        some (.list items, rest)
    | '\x7b' :: cs =>
      if room = 0 then none
      else do
        let (lines, rest) ← inline? (room - 1) fuel cs
        some (← document? lines, rest)
    | '"' :: _ | '\'' :: _ => do
      let (s, rest) ← text? cs
      some (.text (some s), rest)
    | _ => word? cs

/-- The items of a list up to its closing bracket. -/
def items? (room : Nat) : Nat → List Char → Option (List Document × List Char)
  | 0, _ => none
  | fuel + 1, cs => do
    match ← gap? cs.length cs with
    | ']' :: rest => some ([], rest)
    | cs =>
      let (d, rest) ← value? room fuel cs
      match ← gap? rest.length rest with
      | ',' :: rest =>
        let (items, rest) ← items? room fuel rest
        some (d :: items, rest)
      | ']' :: rest => some ([d], rest)
      | _ => none

/-- The assignments of an inline table up to its closing brace. -/
def inline? (room : Nat) : Nat → List Char → Option (List Line × List Char)
  | 0, _ => none
  | fuel + 1, cs => do
    match ← gap? cs.length cs with
    | '\x7d' :: rest => some ([], rest)
    | cs =>
      let (line, rest) ← assignment? true room fuel cs
      match ← gap? rest.length rest with
      | ',' :: rest =>
        let (lines, rest) ← inline? room fuel rest
        some (line :: lines, rest)
      | '\x7d' :: rest => some ([line], rest)
      | _ => none

/-- A key, an equals sign and a value. -/
def assignment? (inTable : Bool) (room : Nat) : Nat → List Char → Option (Line × List Char)
  | 0, _ => none
  | fuel + 1, cs => do
    let (key, rest) ← key? cs
    match ← aroundEquals? inTable rest with
    | '=' :: rest =>
      let (d, rest) ← value? room fuel (← aroundEquals? inTable rest)
      some (.assignment key d, rest)
    | _ => none

end

/-- A header or an assignment. -/
def line? (cs : List Char) : Option (Line × List Char) :=
  match cs with
  | '[' :: '[' :: cs => do
    let (path, rest) ← key? cs
    match skipBlanks rest with
    | ']' :: ']' :: rest => some (.element path, rest)
    | _ => none
  | '[' :: cs => do
    let (path, rest) ← key? cs
    match skipBlanks rest with
    | ']' :: rest => some (.header path, rest)
    | _ => none
  | _ => assignment? false depthLimit (cs.length + 1) cs

/-- The lines of a text. -/
def lines? : Nat → List Char → Option (List Line)
  | 0, _ => none
  | fuel + 1, cs => do
    match ← gap? cs.length cs with
    | [] => some []
    | cs =>
      let (line, rest) ← line? cs
      let rest ← lineEnd? rest
      return line :: (← lines? fuel rest)

/-- The document of a text; a mark of byte order in front does not count. -/
def read? (s : String) : Option Document := do
  let cs := match s.toList with
    | '\ufeff' :: cs => cs
    | cs => cs
  document? (← lines? (cs.length + 1) cs)

end BatchedSave.Toml
