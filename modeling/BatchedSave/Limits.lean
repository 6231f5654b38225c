import BatchedSave.Config.Basic
import BatchedSave.Program.Basic

/-!
# Limits

What one round trip may hold. A batch asks its limits twice for every command: whether the command
may be tried at all, and whether the batch that now includes it is still acceptable. The second
question may fail.
-/
namespace BatchedSave

/-- Limits that answer by what they see alone. -/
structure Policy where
  mayAdd : BatchView → Command → Bool := fun _ _ => true
  accepts : BatchView → Except Error Bool

/-- A policy, or limits of the caller's own that are consulted each time and need not answer the
same way twice. -/
inductive Limits where
  | policy (p : Policy)
  | consulted

namespace Limits

/-- Whether a command may be tried on a batch. -/
def mayAdd : Limits → BatchView → Command → Program Bool
  | policy p, view, c => return p.mayAdd view c
  | consulted, view, c => Program.request (.mayAdd view c)

/-- Whether a batch is acceptable. -/
def accepts : Limits → BatchView → Program (Except Error Bool)
  | policy p, view => return p.accepts view
  | consulted, view => Program.request (.accepts view)

/-- Caps on commands and parameters. -/
def caps (maxCommands maxParameters : Nat) : Limits :=
  policy {
    mayAdd := fun view _ => view.commands.length < maxCommands
    accepts := fun view =>
      .ok (view.commands.length ≤ maxCommands && view.parameterCount ≤ maxParameters) }

def ofConfig (c : Config) : Limits :=
  caps c.batch.maxBatchSize.toNat c.batch.maxParameters.toNat

/-- One command for each round trip. -/
def singular : Limits :=
  policy {
    mayAdd := fun view _ => view.commands.length == 0
    accepts := fun view => .ok (view.commands.length == 1) }

end Limits

end BatchedSave
