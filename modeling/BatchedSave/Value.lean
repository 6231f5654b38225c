import BatchedSave.Decimal.Numeral
import BatchedSave.Text.Quoted

/-!
# Values

A scalar as it is sent in parameters and read back from result rows.
-/
namespace BatchedSave

inductive Value where
  | null
  | bool (b : Bool)
  | int (n : Int64)
  | float (x : Binary64)
  | text (s : String)
  | blob (bytes : List UInt8)
  deriving DecidableEq, Repr

instance : Inhabited Value := ⟨.null⟩

namespace Value

def isNull : Value → Bool
  | null => true
  | _ => false

/-- The value as a count of rows: any whole number that is not negative. -/
def rowCount? : Value → Option Nat
  | int n => if 0 ≤ n.toInt then some n.toInt.toNat else none
  | _ => none

/-- The kind of a value as diagnostics name it. -/
def kind : Value → String
  | null => "null"
  | bool _ => "bool"
  | int _ => "int"
  | float _ => "float"
  | text _ => "text"
  | blob _ => "blob"

/-- Floats in diagnostics have the fewest digits that read back, never an exponent, and no point
when they are whole. -/
def floatLayout : Layout :=
  ⟨.up, fun _ => true, []⟩

/-- The name of a number that is not finite. -/
def nonFiniteText (x : Binary64) : String :=
  if x.isNaN then "NaN" else if x.negative then "-inf" else "inf"

def floatText (x : Binary64) : String :=
  match floatLayout.numeral? x with
  | some n => n.text
  | none => nonFiniteText x

/-- The text of a value in diagnostics. -/
def display : Value → String
  | null => "NULL"
  | bool b => if b then "true" else "false"
  | int n => toString n.toInt
  | float x => floatText x
  | text s => "'" ++ s ++ "'"
  | blob bytes => "<" ++ toString bytes.length ++ " bytes>"

/-- Where the kind of a value is shown as well, floats always have a point or an exponent; sixteen
digits before the point and four zeros behind it are still written out. -/
def taggedLayout : Layout :=
  ⟨.up, fun point => -4 < point && point ≤ 16, [0]⟩

/-- Only a negative exponent shows its sign here. -/
def taggedFloatText (x : Binary64) : String :=
  match taggedLayout.numeral? x with
  | some n =>
    let exponent := n.exponent.map fun e => "e" ++ toString e
    { n with exponent := none }.text ++ exponent.getD ""
  | none => nonFiniteText x

/-- The text of a list in diagnostics. -/
def listText (items : List String) : String :=
  "[" ++ ", ".intercalate items ++ "]"

/-- A value with its kind, as diagnostics show what holds it. -/
def tagged : Value → String
  | null => "Null"
  | bool b => "Bool(" ++ (if b then "true" else "false") ++ ")"
  | int n => "Int(" ++ toString n.toInt ++ ")"
  | float x => "Float(" ++ taggedFloatText x ++ ")"
  | text s => "Text(" ++ Text.quoted s ++ ")"
  | blob bytes => "Blob(" ++ listText (bytes.map fun b => toString b.toNat) ++ ")"

end Value

/-- Data that has a value of its own. -/
class ToValue (α : Type) where
  toValue : α → Value

export ToValue (toValue)

instance : ToValue Bool := ⟨.bool⟩

instance : ToValue Int32 := ⟨fun n => .int n.toInt64⟩

instance : ToValue Int64 := ⟨.int⟩

instance : ToValue Binary64 := ⟨.float⟩

instance : ToValue String := ⟨.text⟩

instance : ToValue (List UInt8) := ⟨.blob⟩

/-- Absent data is the null value. -/
instance {α : Type} [ToValue α] : ToValue (Option α) :=
  ⟨fun a => a.elim .null toValue⟩

end BatchedSave
