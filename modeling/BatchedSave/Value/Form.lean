import BatchedSave.Document.Slot
import BatchedSave.Value

/-!
# The document form of values

A value is a case named for its kind. Null is a case with nothing to it; bytes are a list of
numbers.
-/
namespace BatchedSave

namespace Document

def int64? (d : Document) : Option Int64 := do
  let n ← d.int?
  if Int64.minValue.toInt ≤ n ∧ n ≤ Int64.maxValue.toInt then some (.ofInt n) else none

def byte? (d : Document) : Option UInt8 :=
  (d.nat? 256).map (·.toUInt8)

/-- A case with what belongs to it. -/
def ofCase (label : String) (d : Document) : Document :=
  ofFields [(label, d)]

end Document

namespace Value

def toDocument : Value → Document
  | null => .ofText "Null"
  | bool b => .ofCase "Bool" (.bool b)
  | int n => .ofCase "Int" (.ofInt n.toInt)
  | float x => .ofCase "Float" (.ofFloat x)
  | text s => .ofCase "Text" (.ofText s)
  | blob bytes => .ofCase "Blob" (.list (bytes.map fun b => .ofNat b.toNat))

def ofDocument? (d : Document) : Option Value := do
  match ← d.case? with
  | ("Null", .null) => some null
  | ("Bool", d) => d.bool?.map bool
  | ("Int", d) => d.int64?.map int
  | ("Float", d) => d.float?.map float
  | ("Text", d) => d.text?.map text
  | ("Blob", d) => (d.list? (·.byte?)).map blob
  | _ => none

end Value

instance : DocumentForm Value :=
  ⟨Value.toDocument, Value.ofDocument?⟩

end BatchedSave
