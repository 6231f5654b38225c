import BatchedSave.Error
import BatchedSave.Parameter

/-!
# Columns

One column's part in the change of a row. What the column is for decides which parameters it
binds: the current value when it is written or identifies the row, the former value, which the row
had when it was last read, when it guards the row against a change made by someone else.
-/
namespace BatchedSave

/-- What a column is for: part of the row's key, part of the condition that finds the row, read
back from the store, written to the store. -/
structure Flags where
  key : Bool
  condition : Bool
  read : Bool
  write : Bool
  deriving DecidableEq, Repr

namespace Flags

def none : Flags := ⟨false, false, false, false⟩

/-- A plain written column. -/
def written : Flags := { none with write := true }

/-- A value the store generates. -/
def generated : Flags := { none with read := true }

/-- A key column that finds the row. -/
def keyCondition : Flags := { none with key := true, condition := true }

/-- A key the caller assigns on insert. -/
def keyWritten : Flags := { none with key := true, write := true }

/-- A key the store generates on insert. -/
def keyGenerated : Flags := { none with key := true, read := true }

/-- A token compared with its former value. -/
def guardToken : Flags := { none with condition := true }

def withWrite (f : Flags) : Flags := { f with write := true }

def withRead (f : Flags) : Flags := { f with read := true }

/-- The current value is bound. -/
def bindsCurrent (f : Flags) : Bool :=
  f.write || (f.key && f.condition)

/-- The former value is bound. -/
def bindsFormer (f : Flags) : Bool :=
  f.condition && !f.key

end Flags

/-- A column as the change tracker describes it. -/
structure ColumnSpec where
  name : String
  mapping : TypeMapping
  flags : Flags
  value : Value := .null
  former : Value := .null
  nullable : Bool := true
  deriving DecidableEq, Repr

/-- A column of a command, its parameters named. -/
structure Column where
  name : String
  mapping : TypeMapping
  flags : Flags
  value : Value
  former : Value
  nullable : Bool
  currentParameter : Option String
  formerParameter : Option String
  deriving DecidableEq, Repr

/-- Why a column or a command is refused. -/
inductive Refusal where
  | duplicateColumn (column table : String)
  | idleColumn (column : String)
  | generatedKeyCondition (column : String)
  | insertWithCondition (table : String)
  | insertWithoutColumn (table : String)
  | updateWithoutCondition (table : String)
  | updateWithoutWrite (table : String)
  | deleteWithoutCondition (table : String)
  | deleteWithWriteOrRead (table : String)
  deriving DecidableEq, Repr

namespace Refusal

def ofTable (message table : String) : String :=
  message ++ " (table '" ++ table ++ "')"

def message : Refusal → String
  | duplicateColumn column table =>
    "column '" ++ column ++ "' appears twice in command for table '" ++ table ++ "'"
  | idleColumn column =>
    "column '" ++ column ++ "' is neither read, written, nor used as a condition"
  | generatedKeyCondition column =>
    "column '" ++ column ++ "' is store-generated and cannot be a key condition"
  | insertWithCondition table => ofTable "insert commands cannot carry conditions" table
  | insertWithoutColumn table => ofTable "insert commands need at least one column" table
  | updateWithoutCondition table => ofTable "update commands need a key or condition" table
  | updateWithoutWrite table => ofTable "update commands need a written column" table
  | deleteWithoutCondition table => ofTable "delete commands need a key or condition" table
  | deleteWithWriteOrRead table => ofTable "delete commands cannot write or read columns" table

def toError (r : Refusal) : Error :=
  .plain .unsupported .command r.message

end Refusal

namespace Column

/-- Checks a column's flags and names its parameters, the current value's first. A refused column
takes no name. -/
def ofSpec (spec : ColumnSpec) (names : NameSupply) : Except Refusal (Column × NameSupply) :=
  let f := spec.flags
  if !f.read && !f.write && !f.condition then .error (.idleColumn spec.name)
  else if f.read && f.key && f.condition then .error (.generatedKeyCondition spec.name)
  else
    let (current, names) := names.takeIf f.bindsCurrent
    let (former, names) := names.takeIf f.bindsFormer
    .ok ({ name := spec.name, mapping := spec.mapping, flags := f, value := spec.value,
           former := spec.former, nullable := spec.nullable,
           currentParameter := current, formerParameter := former }, names)

def parameterCount (c : Column) : Nat :=
  c.currentParameter.toList.length + c.formerParameter.toList.length

/-- The parameters a column binds, the current value's first, under the dialect's placeholders. -/
def parameters (placeholder : String → String) (c : Column) : List Parameter :=
  let bound (value : Value) (name : String) : Parameter :=
    ⟨placeholder name, value, c.mapping, c.nullable⟩
  c.currentParameter.toList.map (bound c.value)
    ++ c.formerParameter.toList.map (bound c.former)

end Column

end BatchedSave
