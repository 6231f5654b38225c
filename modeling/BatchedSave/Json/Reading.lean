import BatchedSave.Document.Basic

/-!
# Reading JSON

The document of a JSON text. Numbers keep the way they are written. A text with half of a
surrogate pair is read, but spells no sequence of characters. Each reader takes what it reads off
the front of the characters and returns the rest.
-/
namespace BatchedSave.Json

def isBlank (c : Char) : Bool :=
  c = ' ' || c = '\n' || c = '\r' || c = '\t'

def skipBlanks (cs : List Char) : List Char :=
  cs.dropWhile isBlank

def digit (c : Char) : Nat :=
  c.toNat - '0'.toNat

def digits (cs : List Char) : List Nat × List Char :=
  ((cs.takeWhile Char.isDigit).map digit, cs.dropWhile Char.isDigit)

/-- At least one digit. -/
def someDigits? (cs : List Char) : Option (List Nat × List Char) :=
  match digits cs with
  | ([], _) => none
  | found => some found

/-- Whole part: a zero stands alone. -/
def whole? (cs : List Char) : Option (Nat × List Char) := do
  let (ds, rest) ← someDigits? cs
  if ds.head? = some 0 ∧ 1 < ds.length then none
  else some (Layout.ofDigits ds, rest)

def fraction? : List Char → Option (List Nat × List Char)
  | '.' :: cs => someDigits? cs
  | cs => some ([], cs)

def exponent? : List Char → Option (Option Int × List Char)
  | c :: cs =>
    if c = 'e' || c = 'E' then do
      let (sign, cs) := match cs with
        | '+' :: cs => ((1 : Int), cs)
        | '-' :: cs => (-1, cs)
        | cs => (1, cs)
      let (ds, rest) ← someDigits? cs
      some (some (sign * Layout.ofDigits ds), rest)
    else some (none, c :: cs)
  | [] => some (none, [])

def number? (cs : List Char) : Option (Numeral × List Char) := do
  let (negative, cs) := match cs with
    | '-' :: cs => (true, cs)
    | cs => (false, cs)
  let (whole, cs) ← whole? cs
  let (fraction, cs) ← fraction? cs
  let (exponent, cs) ← exponent? cs
  some (⟨negative, whole, fraction, exponent⟩, cs)

def hexValue? (c : Char) : Option Nat :=
  if c.isDigit then some (digit c)
  else if 'a' ≤ c ∧ c ≤ 'f' then some (c.toNat - 'a'.toNat + 10)
  else if 'A' ≤ c ∧ c ≤ 'F' then some (c.toNat - 'A'.toNat + 10)
  else none

/-- A 16-bit unit in four hexadecimal digits. -/
def unit? : List Char → Option (Nat × List Char)
  | a :: b :: c :: d :: rest => do
    let ds ← [a, b, c, d].mapM hexValue?
    some (ds.foldl (fun n d => 16 * n + d) 0, rest)
  | _ => none

def isLeading (unit : Nat) : Bool :=
  0xD800 ≤ unit && unit < 0xDC00

def isTrailing (unit : Nat) : Bool :=
  0xDC00 ≤ unit && unit < 0xE000

/-- The character of a unit that has just been read, together with the unit that follows if both
make a pair. Half a pair is no character. -/
def character? (unit : Nat) (rest : List Char) : Option Char × List Char :=
  if isLeading unit then
    match rest with
    | '\\' :: 'u' :: more =>
      match unit? more with
      | some (second, more) =>
        if isTrailing second then
          (some (Char.ofNat (0x10000 + (unit - 0xD800) * 0x400 + (second - 0xDC00))), more)
        else (none, rest)
      | none => (none, rest)
    | _ => (none, rest)
  else if isTrailing unit then (none, rest)
  else (some (Char.ofNat unit), rest)

def simpleEscape? : Char → Option Char
  | '"' => some '"'
  | '\\' => some '\\'
  | '/' => some '/'
  | 'b' => some (Char.ofNat 8)
  | 'f' => some (Char.ofNat 12)
  | 'n' => some '\n'
  | 'r' => some '\r'
  | 't' => some '\t'
  | _ => none

/-- Appends a character to a text read so far; what is no character spoils it. -/
def extend (read : Option (List Char)) (c : Option Char) : Option (List Char) := do
  return (← c) :: (← read)

/-- The rest of a text after its opening quote. `read` holds its characters, the last one first.
No more than `fuel` characters are looked at. -/
def textTail? (read : Option (List Char)) : Nat → List Char → Option (Option String × List Char)
  | fuel + 1, c :: cs =>
    if c = '"' then some (read.map fun cs => String.ofList cs.reverse, cs)
    else if c = '\\' then
      match cs with
      | 'u' :: cs => do
        let (unit, cs) ← unit? cs
        let (found, cs) := character? unit cs
        textTail? (extend read found) fuel cs
      | c :: cs => do
        textTail? (extend read (some (← simpleEscape? c))) fuel cs
      | [] => none
    else if c.toNat < 32 then none
    else textTail? (extend read (some c)) fuel cs
  | _, _ => none

/-- A text from its opening quote. -/
def text? : List Char → Option (Option String × List Char)
  | '"' :: cs => textTail? (some []) cs.length cs
  | _ => none

/-- A word that has to follow. -/
def word? (word : List Char) (d : Document) (cs : List Char) : Option (Document × List Char) :=
  if word.isPrefixOf cs then some (d, cs.drop word.length) else none

mutual

/-- A value, blanks before it skipped. The nesting is bounded by `fuel`. -/
def value? : Nat → List Char → Option (Document × List Char)
  | 0, _ => none
  | fuel + 1, cs =>
    match skipBlanks cs with
    | '\x7b' :: cs =>
      match skipBlanks cs with
      | '\x7d' :: cs => some (.record [], cs)
      | cs => do
        let (entries, rest) ← entries? fuel cs
        some (.record entries, rest)
    | '[' :: cs =>
      match skipBlanks cs with
      | ']' :: cs => some (.list [], cs)
      | cs => do
        let (items, rest) ← items? fuel cs
        some (.list items, rest)
    | '"' :: cs => do
      let (s, rest) ← text? ('"' :: cs)
      some (.text s, rest)
    | 'n' :: cs => word? "null".toList .null ('n' :: cs)
    | 't' :: cs => word? "true".toList (.bool true) ('t' :: cs)
    | 'f' :: cs => word? "false".toList (.bool false) ('f' :: cs)
    | cs => do
      let (n, rest) ← number? cs
      some (.number n, rest)

/-- The items of a list up to its closing bracket. -/
def items? : Nat → List Char → Option (List Document × List Char)
  | 0, _ => none
  | fuel + 1, cs => do
    let (d, rest) ← value? fuel cs
    match skipBlanks rest with
    | ',' :: rest =>
      let (items, rest) ← items? fuel rest
      some (d :: items, rest)
    | ']' :: rest => some ([d], rest)
    | _ => none

/-- The entries of a record up to its closing brace. -/
def entries? : Nat → List Char → Option (List (Option String × Document) × List Char)
  | 0, _ => none
  | fuel + 1, cs => do
    let (name, rest) ← text? (skipBlanks cs)
    match skipBlanks rest with
    | ':' :: rest =>
      let (d, rest) ← value? fuel rest
      match skipBlanks rest with
      | ',' :: rest =>
        let (entries, rest) ← entries? fuel rest
        some ((name, d) :: entries, rest)
      | '\x7d' :: rest => some ([(name, d)], rest)
      | _ => none
    | _ => none

end

/-- The document of a text that holds one value and blanks. Every level of nesting takes at least
one character, so the text is long enough to bound it. -/
def read? (s : String) : Option Document := do
  let cs := s.toList
  let (d, rest) ← value? (cs.length + 1) cs
  if (skipBlanks rest).isEmpty then some d else none

/-- The data that a text describes. -/
def parse? {α : Type} [DocumentForm α] (s : String) : Option α :=
  read? s >>= ofDocument?

end BatchedSave.Json
