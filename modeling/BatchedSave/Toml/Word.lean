import BatchedSave.Document.Basic
import BatchedSave.Toml.Text

/-!
# Bare words of TOML

Truth values, whole numbers in four bases, floats, dates and times. A word is checked for the kind
of value that its first characters announce and kept as it is written; only what can be a whole
number is turned into one. In base ten a word with underscores is looked at around these alone, so
it may be admitted and still be no number. Blanks do not end a word that goes on behind them.
-/
namespace BatchedSave.Toml

/-- Digits with single underscores between them, the underscores taken out. -/
def grouped? (isDigit : Char → Bool) : List Char → Option (List Char)
  | [] => none
  | [c] => if isDigit c then some [c] else none
  | c :: '_' :: rest => if isDigit c then (grouped? isDigit rest).map (c :: ·) else none
  | c :: rest => if isDigit c then (grouped? isDigit rest).map (c :: ·) else none

def digitValue (c : Char) : Nat :=
  if c.isDigit then c.toNat - '0'.toNat else c.toLower.toNat - 'a'.toNat + 10

def natOf (base : Nat) (digits : List Char) : Nat :=
  digits.foldl (fun n c => base * n + digitValue c) 0

def isHexDigit (c : Char) : Bool :=
  c.isDigit || ('a' ≤ c && c ≤ 'f') || ('A' ≤ c && c ≤ 'F')

/-- The sign is told apart from the rest. -/
def unsigned : List Char → Bool × List Char
  | '-' :: cs => (true, cs)
  | '+' :: cs => (false, cs)
  | cs => (false, cs)

/-- What stands on both sides of every underscore that follows `before` is a digit. -/
def spacedAfter (isDigit : Char → Bool) : Char → List Char → Bool
  | _, [] => true
  | before, c :: cs =>
    (c != '_' || (isDigit before && cs.head?.any isDigit)) && spacedAfter isDigit c cs

/-- Every underscore of a word stands between digits. -/
def spaced (isDigit : Char → Bool) : List Char → Bool
  | [] => true
  | first :: cs => first != '_' && spacedAfter isDigit first cs

/-- A zero at the front of a whole number stands alone. -/
def leadsWithZero : List Char → Bool
  | '0' :: _ :: _ => true
  | _ => false

/-- Digits behind the mark of a base. A word may end with the mark: it has no value then. -/
def marked? (base : Nat) (isDigit : Char → Bool) (cs : List Char) : Option Document :=
  if cs.isEmpty then some (.bare "")
  else (grouped? isDigit cs).map fun digits => .ofNat (natOf base digits)

/-- A whole number in base ten. With anything but digits in it, it has no value. -/
def whole? (word : List Char) : Option Document :=
  let (negative, value) := unsigned word
  if value.isEmpty || leadsWithZero value || !spaced isHexDigit word then none
  else
    let digits := value.filter (· != '_')
    if digits.all Char.isDigit then
      let n := natOf 10 digits
      some (.ofInt (if negative then -n else n))
    else some (.bare (String.ofList word))

def isDigitOrUnderscore (c : Char) : Bool :=
  c.isDigit || c = '_'

/-- Passes over the digits of one part of a float, of which there is at least one. -/
def floatPart? (cs : List Char) : Option (List Char) :=
  if (cs.takeWhile isDigitOrUnderscore).any Char.isDigit then
    some (cs.dropWhile isDigitOrUnderscore)
  else none

/-- Passes over a fraction if there is one. -/
def fraction? : List Char → Option (List Char)
  | '.' :: cs => floatPart? cs
  | cs => some cs

/-- Passes over an exponent if there is one. -/
def exponent? : List Char → Option (List Char)
  | 'e' :: cs | 'E' :: cs => floatPart? (unsigned cs).2
  | cs => some cs

def isFloat (word : List Char) : Bool :=
  let value := (unsigned word).2
  let digits := (value.takeWhile isDigitOrUnderscore).filter Char.isDigit
  !(value.head? = some '0' && 1 < digits.length) && spaced Char.isDigit word
    && (floatPart? value >>= fraction? >>= exponent?) == some []

/-- A number of exactly `count` digits within bounds. -/
def field? (count low high : Nat) (cs : List Char) : Option (Nat × List Char) :=
  let digits := cs.take count
  let n := natOf 10 digits
  if digits.length = count ∧ digits.all Char.isDigit ∧ low ≤ n ∧ n ≤ high then
    some (n, cs.drop count)
  else none

def mark? (marks : List Char) : List Char → Option (List Char)
  | c :: cs => if marks.contains c then some cs else none
  | [] => none

def isLeapYear (year : Nat) : Bool :=
  year % 4 = 0 && (year % 100 != 0 || year % 400 = 0)

def daysOf (year month : Nat) : Nat :=
  if month = 2 then if isLeapYear year then 29 else 28
  else if [4, 6, 9, 11].contains month then 30
  else 31

def date? (cs : List Char) : Option (List Char) := do
  let (year, cs) ← field? 4 0 9999 cs
  let (month, cs) ← mark? ['-'] cs >>= field? 2 1 12
  let (_, cs) ← mark? ['-'] cs >>= field? 2 1 (daysOf year month)
  some cs

/-- Hours and minutes. -/
def clock? (cs : List Char) : Option (List Char) := do
  let (_, cs) ← field? 2 0 23 cs
  let (_, cs) ← mark? [':'] cs >>= field? 2 0 59
  some cs

/-- Seconds and their fraction may be left out. -/
def time? (cs : List Char) : Option (List Char) := do
  let cs ← clock? cs
  match mark? [':'] cs with
  | none => some cs
  | some cs =>
    match ← field? 2 0 60 cs with
    | (_, '.' :: cs) =>
      if (cs.takeWhile Char.isDigit).isEmpty then none else some (cs.dropWhile Char.isDigit)
    | (_, cs) => some cs

def offset? : List Char → Option (List Char)
  | c :: cs =>
    if c = 'Z' || c = 'z' then some cs
    else if c = '+' || c = '-' then clock? cs
    else none
  | [] => some []

def isMoment (cs : List Char) : Bool :=
  match date? cs with
  | some [] => true
  | some cs => (mark? ['T', 't', ' '] cs >>= time? >>= offset?) == some []
  | none => time? cs == some []

/-- A number or a moment, told by what follows the digits at its front. -/
def number? (word : List Char) : Option Document :=
  let rest := (unsigned word).2.dropWhile Char.isDigit
  let kept (admitted : Bool) : Option Document :=
    if admitted then some (.bare (String.ofList word)) else none
  match rest with
  | [] => whole? word
  | c :: _ =>
    if c = '-' || c = ':' || rest.contains ' ' then kept (isMoment word)
    else if rest.any (['.', 'e', 'E'].contains ·) then kept (isFloat word)
    else if c = '_' then whole? word
    else none

/-- Characters that end a word. A quote does not, nor does a control. -/
def endsWord (c : Char) : Bool :=
  ['=', ',', '[', ']', '\x7b', '\x7d', ' ', '\t', '#', '\r', '\n'].contains c

/-- Where a bare word could begin. A quote would open a text there. -/
def beginsWord : List Char → Bool
  | c :: _ => !endsWord c && c != '"' && c != '\''
  | [] => false

/-- A bare word and what follows it. The word goes on behind blanks where another could begin, so
that a date and a time are one word. -/
def split : List Char → List Char × List Char
  | [] => ([], [])
  | c :: cs =>
    if !endsWord c || (isBlank c && beginsWord (skipBlanks cs)) then
      let (word, rest) := split cs
      (c :: word, rest)
    else ([], c :: cs)

/-- What a word stands for. -/
def meaning? (word : List Char) : Option Document :=
  match word with
  | '0' :: 'x' :: cs => marked? 16 isHexDigit cs
  | '0' :: 'o' :: cs => marked? 8 (fun c => '0' ≤ c && c ≤ '7') cs
  | '0' :: 'b' :: cs => marked? 2 (fun c => c = '0' || c = '1') cs
  | _ =>
    if word = "true".toList then some (.bool true)
    else if word = "false".toList then some (.bool false)
    else if ["inf".toList, "nan".toList].contains (unsigned word).2 then
      some (.bare (String.ofList word))
    else number? word

def word? (cs : List Char) : Option (Document × List Char) := do
  let (word, rest) := split cs
  return (← meaning? word, rest)

end BatchedSave.Toml
