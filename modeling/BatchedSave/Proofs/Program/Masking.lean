import BatchedSave.Proofs.Reconciliation.Settlement

/-!
# Masked values

A command is masked by taking the values out of its columns, a statement on its way to the store by
taking them out of its parameters. Commands that agree once they are masked differ in the values of
their columns at most. Whatever is done with a command without looking at a value is done alike with
the masked one, and an entry of the log that may not show values reads like its masked one.
-/
namespace BatchedSave

/-- The column without its values. -/
def Column.masked (c : Column) : Column :=
  { c with value := .null, former := .null }

/-- The command without the values of its columns. -/
def Command.masked (c : Command) : Command :=
  { c with columns := c.columns.map (·.masked) }

def BatchView.masked (v : BatchView) : BatchView :=
  { v with commands := v.commands.map (·.masked) }

def Parameter.masked (p : Parameter) : Parameter :=
  { p with value := .null }

def StoreParameter.masked (p : StoreParameter) : StoreParameter :=
  { p with value := .null }

/-- The command without the values of its parameters. -/
def StoreCommand.masked (c : StoreCommand) : StoreCommand :=
  { c with parameters := c.parameters.map (·.masked) }

def StoreCall.masked : StoreCall → StoreCall
  | query command => .query command.masked
  | change command => .change command.masked
  | scalar command => .scalar command.masked
  | call => call

def Statement.masked (s : Statement) : Statement :=
  { s with parameters := s.parameters.map (·.masked) }

/-- The entry without values, unless it may show them. -/
def Log.Entry.masked : Log.Entry → Log.Entry
  | executingCommand false command => .executingCommand false command.masked
  | entry => entry

/-- The request without the values of columns, parameters and rows. -/
def Request.masked : Request → Request
  | fragment c => .fragment c.masked
  | mayAdd view c => .mayAdd view.masked c.masked
  | accepts view => .accepts view.masked
  | store call => .store call.masked
  | await call => .await call.masked
  | writeBack entry column _ => .writeBack entry column .null
  | pull next => .pull (next.map (·.masked))
  | log entry => .log entry.masked
  | r => r

/-! ### Commands -/

namespace Command

@[simp] theorem masked_readColumns (c : Command) :
    c.masked.readColumns = c.readColumns.map (·.masked) :=
  List.filter_map

@[simp] theorem masked_readCount (c : Command) : c.masked.readCount = c.readCount := by
  rw [readCount, masked_readColumns, List.length_map, readCount]

@[simp] theorem masked_ref (c : Command) (index : Nat) : c.masked.ref index = c.ref index := rfl

@[simp] theorem masked_parameterCount (c : Command) :
    c.masked.parameterCount = c.parameterCount := by
  rw [parameterCount, masked, List.map_map]
  rfl

@[simp] theorem masked_validate (c : Command) : c.masked.validate = c.validate := by
  have any (flag : Flags → Bool) :
      c.masked.columns.any (fun column => flag column.flags) =
        c.columns.any fun column => flag column.flags := List.any_map
  have empty : c.masked.columns.isEmpty = c.columns.isEmpty := List.isEmpty_map
  have kind : c.masked.kind = c.kind := rfl
  have table : c.masked.table = c.table := rfl
  simp only [validate, any, empty, kind, table]

theorem masked_assign (columns : List Column) (values : List Value) :
    (assign columns values).map (·.masked) = columns.map (·.masked) := by
  induction columns generalizing values with
  | nil => rfl
  | cons column columns ih =>
    cases read : column.flags.read with
    | false =>
      rw [assign_unread read, List.map_cons, List.map_cons, ih]
    | true =>
      cases values with
      | nil => rw [assign_nil]
      | cons value values =>
        rw [assign_read read, List.map_cons, List.map_cons, ih]
        rfl

/-- Generated values leave no trace in the masked command. -/
@[simp] theorem masked_withGenerated (c : Command) (values : List Value) :
    (c.withGenerated values).masked = c.masked := by
  have columns := masked_assign c.columns values
  simp only [withGenerated, masked, columns]

theorem masked_parameters (placeholder : String → String) (c : Command) :
    (c.parameters placeholder).map (·.masked) =
      (c.masked.parameters placeholder).map (·.masked) := by
  have column (column : Column) : (column.parameters placeholder).map (·.masked) =
      (column.masked.parameters placeholder).map (·.masked) := by
    rw [Column.parameters, Column.parameters, List.map_append, List.map_append, List.map_map,
      List.map_map, List.map_map, List.map_map]
    rfl
  rw [parameters, parameters, masked, List.map_flatMap, List.map_flatMap, List.flatMap_map]
  exact List.flatMap_congr fun c _ => column c

section

variable {c c' : Command} (same : c.masked = c'.masked)
include same

theorem readCount_congr : c.readCount = c'.readCount := by
  rw [← c.masked_readCount, same, c'.masked_readCount]

theorem parameterCount_congr : c.parameterCount = c'.parameterCount := by
  rw [← c.masked_parameterCount, same, c'.masked_parameterCount]

theorem validate_congr : c.validate = c'.validate := by
  rw [← c.masked_validate, same, c'.masked_validate]

theorem ofCommand_congr : ResultShape.ofCommand c = ResultShape.ofCommand c' := by
  rw [ResultShape.ofCommand, ResultShape.ofCommand, readCount_congr same]

theorem ref_congr (index : Nat) : c.ref index = c'.ref index := by
  rw [← c.masked_ref, same, c'.masked_ref]

theorem heading_congr : c.table = c'.table ∧ c.kind = c'.kind ∧ c.entry = c'.entry := by
  simp only [masked, mk.injEq] at same
  exact ⟨same.1, same.2.2.1, same.2.2.2.1⟩

theorem readColumns_congr : c.readColumns.map (·.name) = c'.readColumns.map (·.name) := by
  have columns := congrArg (fun c => c.readColumns.map (·.name)) same
  simp only [masked_readColumns, List.map_map] at columns
  exact columns

end

end Command

/-- Binding a statement to a connection's settings looks at no value. -/
theorem Statement.masked_bind (s : Statement) (settings : Settings) :
    (s.bind settings).masked = (s.masked.bind settings).masked := by
  simp only [bind, StoreCommand.masked, masked, List.map_map]
  rfl

/-! ### Log entries -/

namespace Log.Entry

theorem parameterText_masked (parameters : List StoreParameter) :
    parameterText false (parameters.map (·.masked)) = parameterText false parameters := by
  simp only [parameterText, List.map_map]
  rfl

/-- What is shown of an entry: its level, its message and its fields. -/
def shown (entry : Log.Entry) : Level × String × List (String × String) :=
  (entry.level, entry.message, entry.fields)

/-- An entry is shown like its masked one. -/
theorem masked_shown (entry : Log.Entry) : entry.masked.shown = entry.shown := by
  unfold masked
  split
  next command =>
    have same : (executingCommand false command.masked).fields =
        (executingCommand false command).fields := by
      simp only [fields, StoreCommand.masked, parameterText_masked]
    rw [shown, shown, same]
    rfl
  next => rfl

end Log.Entry

/-- What the log shows of a request, if it is one to log something. -/
def Request.shown? : Request → Option (Log.Level × String × List (String × String))
  | log entry => some entry.shown
  | _ => none

theorem Request.masked_shown? (r : Request) : r.masked.shown? = r.shown? := by
  cases r with
  | log entry => exact congrArg some entry.masked_shown
  | _ => rfl

/-- What the log shows of a trace, in order. -/
def logged (trace : List Exchange) : List (Log.Level × String × List (String × String)) :=
  trace.filterMap (·.request.shown?)

/-- Traces that agree in their masked requests are logged alike. -/
theorem logged_congr {trace trace' : List Exchange}
    (same : trace.map (·.request.masked) = trace'.map (·.request.masked)) :
    logged trace = logged trace' := by
  have masked (trace : List Exchange) :
      logged trace = (trace.map (·.request.masked)).filterMap Request.shown? := by
    rw [List.filterMap_map]
    exact List.filterMap_congr fun x _ => x.request.masked_shown?.symm
  rw [masked, same, ← masked]

end BatchedSave
