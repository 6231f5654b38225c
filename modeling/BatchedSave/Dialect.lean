import BatchedSave.Program.Request

/-!
# Dialects

A dialect says how a batch is written for a store: what opens and closes it, how placeholders look,
and the statements of each command. The plain dialect writes textbook statements and, behind each
of them, selects what the command's result is reconciled with.
-/
namespace BatchedSave

/-- The placeholder of a parameter name, unless a dialect has its own. -/
def atPlaceholder (name : String) : String :=
  "@" ++ name

/-- A dialect that writes the same text for the same command every time. -/
structure Dialect where
  header : String
  footer : String := ""
  placeholder : String → String := atPlaceholder
  fragment : Command → Rendering

namespace Dialect

def commaSeparated (parts : List String) : String :=
  ", ".intercalate parts

def tableText (c : Command) : String :=
  match c.schema with
  | some schema => schema ++ "." ++ c.table
  | none => c.table

/-- A placeholder; a column without parameter has none. -/
def placed (placeholder : String → String) (name : Option String) : String :=
  (name.map placeholder).getD ""

/-- The condition columns compared with what they bind, the former value first. -/
def conditionText (placeholder : String → String) (c : Command) : String :=
  " AND ".intercalate <| (c.columns.filter (·.flags.condition)).map fun column =>
    let name := column.formerParameter.orElse fun _ => column.currentParameter
    column.name ++ " = " ++ placed placeholder name

/-- The statement that changes the row. -/
def changeText (placeholder : String → String) (c : Command) : String :=
  let written := c.columns.filter (·.flags.write)
  let current (column : Column) : String := placed placeholder column.currentParameter
  match c.kind with
  | .insert =>
    "INSERT INTO " ++ tableText c ++ " (" ++ commaSeparated (written.map (·.name)) ++ ") VALUES ("
      ++ commaSeparated (written.map current) ++ ");\n"
  | .update =>
    "UPDATE " ++ tableText c ++ " SET "
      ++ commaSeparated (written.map fun column => column.name ++ " = " ++ current column)
      ++ " WHERE " ++ conditionText placeholder c ++ ";\n"
  | .delete =>
    "DELETE FROM " ++ tableText c ++ " WHERE " ++ conditionText placeholder c ++ ";\n"

/-- The statement that selects the generated values or the number of changes. -/
def selectText (c : Command) : String :=
  if c.propagates then
    "SELECT " ++ commaSeparated (c.readColumns.map (·.name)) ++ " FROM " ++ tableText c
      ++ " WHERE changes() = 1;\n"
  else "SELECT changes();\n"

def plainText (placeholder : String → String) (c : Command) : String :=
  changeText placeholder c ++ selectText c

def plain (placeholder : String → String) : Dialect where
  header := "-- batch\n"
  placeholder
  fragment c := ⟨plainText placeholder c, none⟩

end Dialect

end BatchedSave
