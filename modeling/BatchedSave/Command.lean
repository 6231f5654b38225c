import BatchedSave.Column

/-!
# Commands

The insert, update or delete of one row. The order of the columns matters: placeholders appear in
that order and generated values come back in that order.
-/
namespace BatchedSave

inductive ChangeKind where
  | insert | update | delete
  deriving DecidableEq, Repr

namespace ChangeKind

def label : ChangeKind → String
  | insert => "Insert"
  | update => "Update"
  | delete => "Delete"

def all : List ChangeKind := [insert, update, delete]

end ChangeKind

/-- A row's change. `entry` is the caller's handle of the tracked row. -/
structure Command where
  table : String
  schema : Option String
  kind : ChangeKind
  entry : Nat
  columns : List Column
  deriving DecidableEq, Repr

namespace Command

/-- A command that has no column yet. -/
def blank (table : String) (schema : Option String) (kind : ChangeKind) (entry : Nat) : Command :=
  ⟨table, schema, kind, entry, []⟩

/-- Appends a column. A command names each column once. -/
def addColumn (c : Command) (spec : ColumnSpec) (names : NameSupply) :
    Except Refusal (Command × NameSupply) :=
  if c.columns.any (·.name == spec.name) then .error (.duplicateColumn spec.name c.table)
  else do
    let (column, names) ← Column.ofSpec spec names
    return ({ c with columns := c.columns ++ [column] }, names)

/-- The columns whose values the store generates, in declared order. -/
def readColumns (c : Command) : List Column :=
  c.columns.filter (·.flags.read)

def readCount (c : Command) : Nat :=
  c.readColumns.length

/-- The store answers the command with a row of generated values. -/
def propagates (c : Command) : Bool :=
  c.columns.any (·.flags.read)

def parameterCount (c : Command) : Nat :=
  (c.columns.map (·.parameterCount)).foldr (· + ·) 0

def parameters (placeholder : String → String) (c : Command) : List Parameter :=
  c.columns.flatMap (·.parameters placeholder)

def ref (c : Command) (index : Nat) : CommandRef :=
  ⟨index, c.table, c.entry⟩

/-- The columns suit the kind of change: a row to change or delete is found by a condition, an
insert has none, an update writes something, a delete only finds its row. -/
def validate (c : Command) : Except Refusal Unit :=
  let conditions := c.columns.any (·.flags.condition)
  let writes := c.columns.any (·.flags.write)
  let reads := c.columns.any (·.flags.read)
  match c.kind with
  | .insert =>
    if conditions then .error (.insertWithCondition c.table)
    else if c.columns.isEmpty then .error (.insertWithoutColumn c.table)
    else .ok ()
  | .update =>
    if !conditions then .error (.updateWithoutCondition c.table)
    else if !writes then .error (.updateWithoutWrite c.table)
    else .ok ()
  | .delete =>
    if !conditions then .error (.deleteWithoutCondition c.table)
    else if writes || reads then .error (.deleteWithWriteOrRead c.table)
    else .ok ()

/-- Gives the read columns the values of a row, in order. -/
def assign : List Column → List Value → List Column
  | [], _ => []
  | column :: columns, values =>
    if column.flags.read then
      match values with
      | [] => column :: columns
      | value :: values => { column with value := value } :: assign columns values
    else column :: assign columns values

def withGenerated (c : Command) (values : List Value) : Command :=
  { c with columns := assign c.columns values }

end Command

end BatchedSave
