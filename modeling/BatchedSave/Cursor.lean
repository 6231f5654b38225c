import BatchedSave.Error
import BatchedSave.Value

/-!
# Cursors

A forward cursor over the result sets of one executed command, held in memory. It starts on the
first result set, before its first row; what has been passed is gone.
-/
namespace BatchedSave

abbrev Row := List Value

abbrev ResultSet := List Row

/-- A call that moves or reads a cursor. -/
inductive ReaderCall where
  | nextSet
  | nextRow
  | value (ordinal : Nat)
  deriving DecidableEq, Repr

abbrev ReaderCall.Result : ReaderCall → Type
  | nextSet => Bool
  | nextRow => Bool
  | value _ => Value

/-- The rows still ahead in the current result set, the result sets behind it, and the row the
cursor stands on. -/
structure Cursor where
  ahead : List Row
  later : List ResultSet
  row : Option Row
  deriving DecidableEq, Repr

namespace Cursor

def ofSets : List ResultSet → Cursor
  | [] => ⟨[], [], none⟩
  | set :: sets => ⟨set, sets, none⟩

/-- A cursor that holds nothing. -/
def empty : Cursor := ⟨[], [], none⟩

def nextSet (c : Cursor) : Bool × Cursor :=
  match c.later with
  | [] => (false, ⟨[], [], none⟩)
  | set :: sets => (true, ⟨set, sets, none⟩)

def nextRow (c : Cursor) : Bool × Cursor :=
  match c.ahead with
  | [] => (false, { c with row := none })
  | row :: rows => (true, { c with ahead := rows, row := some row })

/-- The width of the current row; none is zero wide. -/
def fieldCount (c : Cursor) : Nat :=
  (c.row.map (·.length)).getD 0

def value (c : Cursor) (ordinal : Nat) : Except Error Value :=
  match c.row with
  | none => .error (.readerInternal "no current row")
  | some row =>
    match row[ordinal]? with
    | some v => .ok v
    | none =>
      .error (.readerInternal ("ordinal " ++ toString ordinal ++ " out of range for row of "
        ++ toString row.length ++ " value(s)"))

/-- Serves one reader call. -/
def serve (c : Cursor) : (call : ReaderCall) → Except Error call.Result × Cursor
  | .nextSet => let (moved, c) := c.nextSet; (.ok moved, c)
  | .nextRow => let (moved, c) := c.nextRow; (.ok moved, c)
  | .value ordinal => (c.value ordinal, c)

end Cursor

end BatchedSave
