/-!
# Texts and keys of TOML

Quoted texts of all four kinds and the parts of keys. Controls other than the tab are refused
everywhere; line breaks are allowed in texts of three quotes only.
-/
namespace BatchedSave.Toml

/-- Characters that no text or comment may hold. -/
def isControl (c : Char) : Bool :=
  (c.toNat < 32 && c != '\t') || c.toNat = 127

def newline? : List Char → Option (List Char)
  | '\n' :: cs => some cs
  | '\r' :: '\n' :: cs => some cs
  | _ => none

def isBlank (c : Char) : Bool :=
  c = ' ' || c = '\t'

def skipBlanks (cs : List Char) : List Char :=
  cs.dropWhile isBlank

def hexValue? (c : Char) : Option Nat :=
  if c.isDigit then some (c.toNat - '0'.toNat)
  else if 'a' ≤ c ∧ c ≤ 'f' then some (c.toNat - 'a'.toNat + 10)
  else if 'A' ≤ c ∧ c ≤ 'F' then some (c.toNat - 'A'.toNat + 10)
  else none

/-- The character of a code point in `count` hexadecimal digits. -/
def codePoint? (count : Nat) (cs : List Char) : Option (Char × List Char) := do
  let digits := cs.take count
  if digits.length < count then none
  else
    let ds ← digits.mapM hexValue?
    let n := ds.foldl (fun n d => 16 * n + d) 0
    if n.isValidChar then some (Char.ofNat n, cs.drop count) else none

/-- What stands for a character behind a backslash. -/
def escape? : List Char → Option (Char × List Char)
  | 'b' :: cs => some (Char.ofNat 8, cs)
  | 't' :: cs => some ('\t', cs)
  | 'n' :: cs => some ('\n', cs)
  | 'f' :: cs => some (Char.ofNat 12, cs)
  | 'r' :: cs => some ('\r', cs)
  | 'e' :: cs => some (Char.ofNat 27, cs)
  | '"' :: cs => some ('"', cs)
  | '\\' :: cs => some ('\\', cs)
  | 'x' :: cs => codePoint? 2 cs
  | 'u' :: cs => codePoint? 4 cs
  | 'U' :: cs => codePoint? 8 cs
  | _ => none

/-- The rest of a line of text up to the closing quote. `read` holds its characters, the last one
first. -/
def singleLine? (quote : Char) (read : List Char) : Nat → List Char → Option (String × List Char)
  | fuel + 1, c :: cs =>
    if c = quote then some (String.ofList read.reverse, cs)
    else if c = '\\' && quote = '"' then do
      let (c, cs) ← escape? cs
      singleLine? quote (c :: read) fuel cs
    else if isControl c then none
    else singleLine? quote (c :: read) fuel cs
  | _, _ => none

/-- Passes over blanks and line breaks. -/
def skipSpace : List Char → List Char
  | '\r' :: '\n' :: cs => skipSpace cs
  | c :: cs => if isBlank c || c = '\n' then skipSpace cs else c :: cs
  | [] => []

/-- What follows a backslash at the end of a line: all blanks and line breaks up to the next
character. -/
def continued? (cs : List Char) : Option (List Char) :=
  (newline? (skipBlanks cs)).map skipSpace

/-- The rest of a text of three quotes. Up to two quotes stand for themselves, also right before
the closing ones. -/
def manyLines? (quote : Char) (read : List Char) : Nat → List Char → Option (String × List Char)
  | fuel + 1, c :: cs =>
    if c = quote then
      let run := ((c :: cs).takeWhile (· = quote)).length
      if 3 ≤ run then
        let own := min (run - 3) 2
        some (String.ofList (List.replicate own quote ++ read).reverse, (c :: cs).drop (own + 3))
      else manyLines? quote (c :: read) fuel cs
    else if c = '\\' && quote = '"' then
      match continued? cs with
      | some cs => manyLines? quote read fuel cs
      | none => do
        let (c, cs) ← escape? cs
        manyLines? quote (c :: read) fuel cs
    else
      match newline? (c :: cs) with
      | some cs => manyLines? quote ('\n' :: read) fuel cs
      | none => if isControl c then none else manyLines? quote (c :: read) fuel cs
  | _, _ => none

/-- A text of any kind. A line break right behind three opening quotes does not count. -/
def text? : List Char → Option (String × List Char)
  | a :: b :: c :: cs =>
    if (a = '"' || a = '\'') && b = a && c = a then
      let cs := (newline? cs).getD cs
      manyLines? a [] cs.length cs
    else if a = '"' || a = '\'' then singleLine? a [] (cs.length + 2) (b :: c :: cs)
    else none
  | a :: cs => if a = '"' || a = '\'' then singleLine? a [] cs.length cs else none
  | [] => none

def isBareKey (c : Char) : Bool :=
  c.isAlphanum || c = '_' || c = '-'

/-- One part of a key: bare, or a text on one line. -/
def keyPart? (cs : List Char) : Option (String × List Char) :=
  match cs with
  | '"' :: rest => singleLine? '"' [] rest.length rest
  | '\'' :: rest => singleLine? '\'' [] rest.length rest
  | _ =>
    let part := cs.takeWhile isBareKey
    if part.isEmpty then none else some (String.ofList part, cs.dropWhile isBareKey)

/-- Parts of a key with points between them. -/
def keyParts? : Nat → List Char → Option (List String × List Char)
  | 0, _ => none
  | fuel + 1, cs => do
    let (part, rest) ← keyPart? (skipBlanks cs)
    match skipBlanks rest with
    | '.' :: rest =>
      let (parts, rest) ← keyParts? fuel rest
      some (part :: parts, rest)
    | rest => some ([part], rest)

/-- How deep values may be nested, and how many parts a key may have. -/
def depthLimit : Nat := 80

/-- A key, which is not too long. -/
def key? (cs : List Char) : Option (List String × List Char) := do
  let (parts, rest) ← keyParts? cs.length cs
  if parts.length ≤ depthLimit then some (parts, rest) else none

end BatchedSave.Toml
