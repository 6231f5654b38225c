import BatchedSave.Program.Manner

/-!
# Reconciliation

The result stream of a batch is reconciled with its commands in lock-step. A command with read
columns is answered by one row with a value for each of them, any other command by one row that
counts the affected rows. Each command's answer is read completely before any of it is applied, so
a command is either applied or untouched.
-/
namespace BatchedSave

/-- What the result set of a command looks like. -/
inductive ResultShape where
  | generated (columns : Nat)
  | affectedCount
  deriving DecidableEq, Repr

namespace ResultShape

def ofCommand (c : Command) : ResultShape :=
  match c.readCount with
  | 0 => affectedCount
  | columns => generated columns

/-- The width of the row. -/
def fieldCount : ResultShape → Nat
  | generated columns => columns
  | affectedCount => 1

end ResultShape

/-- A command's result once it has been read, not yet applied. -/
inductive RowOutcome where
  | generated (values : List Value)
  | affected (rows : Nat)
  | missing
  deriving DecidableEq, Repr

/-- How a result stream can disagree with the commands. -/
inductive Violation where
  | missingResultSet
  | extraRow
  | unconsumedResultSet
  | missingCount
  | width (expected found : Nat)
  | notACount (kind : String)
  | generatedCount (expected received : Nat)
  | shape (outcome : RowOutcome) (expected : ResultShape)
  deriving DecidableEq, Repr

namespace Violation

def outcomeText : RowOutcome → String
  | .generated values => "Generated(" ++ Value.listText (values.map (·.tagged)) ++ ")"
  | .affected rows => "Affected(" ++ toString rows ++ ")"
  | .missing => "Missing"

def shapeText : ResultShape → String
  | .generated columns => "Generated \x7b columns: " ++ toString columns ++ " \x7d"
  | .affectedCount => "AffectedCount"

def message : Violation → String
  | missingResultSet => "result stream ended before this command's result set"
  | extraRow => "result set holds more than one row"
  | unconsumedResultSet => "unconsumed result set after the last command"
  | missingCount => "missing affected-row count"
  | width expected found =>
    "expected " ++ toString expected ++ " value(s) in result row, found " ++ toString found
  | notACount kind => "affected-row count must be a non-negative int, got " ++ kind
  | generatedCount expected received =>
    "expected " ++ toString expected ++ " generated value(s), received " ++ toString received
  | shape outcome expected =>
    "result " ++ outcomeText outcome ++ " does not match expected shape " ++ shapeText expected

/-- The error that reports the violation at a command. -/
def toError (v : Violation) (index : Nat) : Error :=
  .violation index v.message

end Violation

/-- A command whose result has been applied, with the rows it affected. -/
structure Applied where
  command : Command
  rows : Nat
  deriving DecidableEq, Repr

/-- Commands already applied and commands still to come, both in order. -/
structure Reconciliation where
  applied : List Applied
  pending : List Command
  deriving DecidableEq, Repr

namespace Reconciliation

def start (commands : List Command) : Reconciliation :=
  ⟨[], commands⟩

/-- Index of the command whose result comes next. -/
def position (r : Reconciliation) : Nat :=
  r.applied.length

def rowsAffected (r : Reconciliation) : List Nat :=
  r.applied.map (·.rows)

def commands (r : Reconciliation) : List Command :=
  r.applied.map (·.command) ++ r.pending

end Reconciliation

namespace Command

/-- A row has the width its command's shape wants. -/
def checkWidth (c : Command) (index found : Nat) : Except Error Unit :=
  let expected := (ResultShape.ofCommand c).fieldCount
  if found = expected then .ok ()
  else .error ((Violation.width expected found).toError index)

/-- Reads a complete row by the command's shape. A count is the last value of the row. -/
def rowOutcome (c : Command) (index : Nat) (values : List Value) : Except Error RowOutcome :=
  match ResultShape.ofCommand c with
  | .generated _ => .ok (.generated values)
  | .affectedCount =>
    let value := values.getLast?.getD .null
    match value.rowCount? with
    | some rows => .ok (.affected rows)
    | none => .error ((Violation.notACount value.kind).toError index)

/-- Writes generated values back and puts them into the read columns. A wrong number of values
changes nothing. -/
def applyGenerated (c : Command) (index : Nat) (values : List Value) : Attempt Command := do
  if values.length ≠ c.readCount then
    throw ((Violation.generatedCount c.readCount values.length).toError index)
  (c.readColumns.zip values).forM fun (column, value) =>
    Program.request (.writeBack c.entry column.name value)
  return c.withGenerated values

/-- Applies a result that has been read. At least one row has to be affected: a missing row of
generated values and a count of zero mean that the row to change was not there. -/
def complete (c : Command) (index : Nat) (outcome : RowOutcome) : Attempt Applied :=
  match ResultShape.ofCommand c, outcome with
  | .generated _, .generated values => do
    let c ← c.applyGenerated index values
    Program.request (.record (.commandApplied c.table c.kind values.length))
    return ⟨c, 1⟩
  | .affectedCount, .affected rows =>
    if 0 < rows then do
      Program.request (.record (.commandApplied c.table c.kind 0))
      return ⟨c, rows⟩
    else throw (.conflict (c.ref index) 1 rows)
  | .generated _, .missing => throw (.conflict (c.ref index) 1 0)
  | .affectedCount, .missing => throw (Violation.missingCount.toError index)
  | expected, outcome => throw ((Violation.shape outcome expected).toError index)

end Command

end BatchedSave
