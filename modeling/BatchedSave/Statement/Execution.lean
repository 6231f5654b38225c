import BatchedSave.Program.Manner

/-!
# Executing a statement

A connection is in use from the moment it is asked to open, and it is closed however that use
ends. The settings are read once it is open and bound to the statement.
-/
namespace BatchedSave

/-- Opens the connection, goes on with `use`, and closes the connection in the end, also when
opening it or `use` failed. -/
def Manner.connected {α : Type} (manner : Manner) (use : Attempt α) : Program (Except Error α) := do
  let result ← (manner.perform .connection .connect >>= fun _ => use).run
  Program.request .close
  return result

namespace Statement

/-- The command for an open connection, which is logged. -/
def prepare (s : Statement) (settings : Settings) : Program StoreCommand := do
  let command := s.bind settings
  Program.request (.log (.executingCommand s.sensitive command))
  return command

/-- The command under the settings of the open connection. -/
def command (s : Statement) : Attempt StoreCommand := do
  s.prepare (← Program.request .settings)

/-- Executes the statement and tells how many rows it affected. -/
def change (s : Statement) (manner : Manner) : Program (Except Error Nat) :=
  manner.connected do
    manner.perform .store (.change (← s.command))

/-- Executes the statement and tells its single value. -/
def scalar (s : Statement) (manner : Manner) : Program (Except Error Value) :=
  manner.connected do
    manner.perform .store (.scalar (← s.command))

/-- Executes the statement and lets `use` read the results while the connection is open. -/
def reading {α : Type} (s : Statement) (manner : Manner) (use : Program α) :
    Program (Except Error α) :=
  manner.connected do
    manner.perform .store (.query (← s.command))
    use

end Statement

/-- A call on the results of a statement being read, passed on as it is. A call that is dropped has
no answer. -/
def Manner.read (manner : Manner) (call : ReaderCall) :
    Program (Option (Except Error call.Result)) :=
  match manner with
  | blocking => some <$> Program.request (.store (.reader call))
  | suspending => Program.request (.await (.reader call))

end BatchedSave
