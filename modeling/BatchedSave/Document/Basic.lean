import BatchedSave.Decimal.Reading

/-!
# Documents

What a text in one of the structured notations says, before it is taken for data of a certain
type. Records keep their entries in order, repeated names included, so that whoever takes a
document can refuse them.
-/
namespace BatchedSave

inductive Document where
  | null
  | bool (b : Bool)
  | number (n : Numeral)
  /-- A text; `none` is one that no sequence of characters spells. -/
  | text (s : Option String)
  /-- A bare word that is neither of the above: a date, an infinity. -/
  | bare (word : String)
  | list (items : List Document)
  | record (entries : List (Option String × Document))
  deriving Repr

/-- Data that has a form as a document. -/
class DocumentForm (α : Type) where
  toDocument : α → Document
  ofDocument? : Document → Option α

export DocumentForm (toDocument ofDocument?)

namespace Document

def ofText (s : String) : Document :=
  text (some s)

def ofNat (n : Nat) : Document :=
  number (.ofNat n)

def ofInt (n : Int) : Document :=
  number (.ofInt n)

/-- A record of named fields, in order. -/
def ofFields (fields : List (String × Document)) : Document :=
  record (fields.map fun (name, d) => (some name, d))

/-- Floats have a point or an exponent; sixteen digits before the point and five zeros behind it
are still written out. What is not finite is null. -/
def floatLayout : Layout :=
  ⟨.toEven, fun point => -5 < point && point ≤ 16, [0]⟩

def ofFloat (x : Binary64) : Document :=
  match floatLayout.numeral? x with
  | some n => number n
  | none => null

def bool? : Document → Option Bool
  | bool b => some b
  | _ => none

def text? : Document → Option String
  | text s => s
  | _ => none

def int? : Document → Option Int
  | number n => n.int?
  | _ => none

/-- A whole number from zero up to, but not including, a bound. -/
def nat? (bound : Nat) (d : Document) : Option Nat := do
  let n ← d.int?
  if 0 ≤ n ∧ n < bound then some n.toNat else none

def float? : Document → Option Binary64
  | number n => n.float?
  | _ => none

def list? {α : Type} (item? : Document → Option α) : Document → Option (List α)
  | list items => items.mapM item?
  | _ => none

/-- Null stands for absent data. -/
def optional? {α : Type} (some? : Document → Option α) : Document → Option (Option α)
  | null => some none
  | d => (some? d).map some

def ofOption {α : Type} (f : α → Document) : Option α → Document
  | some a => f a
  | none => null

/-- A case of a choice, by its label: alone, or as the only field of a record with what belongs to
it. -/
def case? : Document → Option (String × Document)
  | text (some label) => some (label, null)
  | record [(some label, d)] => some (label, d)
  | _ => none

/-- One of several cases that nothing belongs to. -/
def label? {α : Type} (label : α → String) (all : List α) (d : Document) : Option α := do
  match ← d.case? with
  | (name, null) => all.find? (label · == name)
  | _ => none

end Document

end BatchedSave
