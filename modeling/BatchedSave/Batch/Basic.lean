import BatchedSave.Batch.Script
import BatchedSave.Dialect
import BatchedSave.Limits

/-!
# Batches

A batch gathers the commands of one round trip. A command is added tentatively and taken out again
if the limits do not accept the batch that includes it. A batch that is full is no error: the
command is handed back and starts the next batch.
-/
namespace BatchedSave

/-- Whether values may be logged, and the timeout where the connection sets none. -/
structure BatchOptions where
  sensitive : Bool := false
  timeout : Option Nat := none
  deriving DecidableEq, Repr

def BatchOptions.ofConfig (c : Config) : BatchOptions :=
  ⟨c.logging.sensitiveDataLogging, c.timeout⟩

/-- What becomes of a command that is tried on a batch. -/
inductive Admission where
  | added
  | full (command : Command)
  deriving DecidableEq, Repr

structure Batch where
  placeholder : String → String
  limits : Limits
  options : BatchOptions
  commands : List Command := []
  parameterCount : Nat := 0
  script : Script := {}

namespace Batch

/-- Reports that a command does not fit and hands it back. -/
def full (b : Batch) (c : Command) : Program Admission := do
  Program.request (.log (.batchFull b.commands.length b.parameterCount))
  Program.request (.record (.batchFull b.commands.length))
  return .full c

def view (b : Batch) : BatchView :=
  ⟨b.commands, b.parameterCount⟩

/-- Appends a command without asking the limits. -/
def push (b : Batch) (c : Command) : Batch :=
  { b with
    commands := b.commands ++ [c]
    parameterCount := b.parameterCount + c.parameterCount }

/-- Takes the last command out again; `parameters` is what it added to the count. -/
def pop (b : Batch) (parameters : Nat) : Except Error (Command × Batch) :=
  match b.commands.getLast? with
  | none =>
    .error (.plain .invariantViolation .batch "rollback found no tentatively added command")
  | some c =>
    .ok (c, { b with
      commands := b.commands.dropLast
      parameterCount := b.parameterCount - parameters })

/-- An empty batch starts its script anew with every command tried on it. -/
def prepared (b : Batch) : Program Batch :=
  if b.commands.isEmpty then do
    let script ← Script.start
    return { b with script }
  else return b

/-- Tries a command. An error means that the command is refused or that the limits failed; the
commands of the batch are then as before. -/
def tryAdd (b : Batch) (c : Command) : Program (Batch × Except Error Admission) := do
  match c.validate with
  | .error refusal => return (b, .error refusal.toError)
  | .ok () =>
    let b ← b.prepared
    if !(← b.limits.mayAdd b.view c) then
      return (b, .ok (← b.full c))
    else
      let grown := b.push c
      match ← b.limits.accepts grown.view with
      | .ok true => return (grown, .ok .added)
      | .ok false =>
        match grown.pop c.parameterCount with
        | .ok (c, b) => return (b, .ok (← b.full c))
        | .error e => return (grown, .error e)
      | .error e =>
        match grown.pop c.parameterCount with
        | .ok (_, b) => return (b, .error e)
        | .error e => return (grown, .error e)

/-- The text kept so far. -/
def cachedText (b : Batch) : String :=
  b.script.text

/-- The complete text. A batch without commands has none. -/
def finalize (b : Batch) : Program (Batch × Except Error String) :=
  if b.commands.isEmpty then return (b, .ok "")
  else do
    let (script, result) ← b.script.render b.commands
    return ({ b with script }, result)

/-- The parameters of all commands, in order of commands and columns. -/
def parameters (b : Batch) : List Parameter :=
  b.commands.flatMap (·.parameters b.placeholder)

/-- The one statement of the whole batch. -/
def statement (b : Batch) : Program (Batch × Except Error Statement) := do
  let (b, text) ← b.finalize
  return (b, text.map fun text =>
    { text
      parameters := b.parameters
      sensitive := b.options.sensitive
      timeout := b.options.timeout })

end Batch

end BatchedSave
