import BatchedSave.Reconciliation.Basic

/-!
# The blocking walk

Reads the pending commands' results one after the other, waiting for every call. A walk that is
taken up again after a failure first moves to the next result set.
-/
namespace BatchedSave

/-- Reads the values of the current row from `ordinal` on, `count` of them. -/
def readValues (ordinal : Nat) : Nat → Attempt (List Value)
  | 0 => return []
  | count + 1 => do
    let value ← wait (.reader (.value ordinal))
    return value :: (← readValues (ordinal + 1) count)

namespace Command

/-- Reads the result of a command from the current result set. -/
def readOutcome (c : Command) (index : Nat) : Attempt RowOutcome := do
  if ← wait (.reader .nextRow) then
    liftExcept (c.checkWidth index (← Program.request .fieldCount))
    let values ← readValues 0 (ResultShape.ofCommand c).fieldCount
    if ← wait (.reader .nextRow) then
      throw (Violation.extraRow.toError index)
    liftExcept (c.rowOutcome index values)
  else return .missing

/-- Reconciles one command; all but the first move to their own result set. -/
def reconcile (c : Command) (index : Nat) : Attempt Applied := do
  if 0 < index then
    if !(← wait (.reader .nextSet)) then
      throw (Violation.missingResultSet.toError index)
  c.complete index (← c.readOutcome index)

end Command

namespace Reconciliation

/-- Reconciles commands in order after those already applied; nothing may follow the last one. -/
def walk (applied : List Applied) : List Command → Program (Reconciliation × Except Error Unit)
  | [] => do
    let finished ← ExceptT.run do
      if ← wait (.reader .nextSet) then
        throw (Violation.unconsumedResultSet.toError applied.length)
    return (⟨applied, []⟩, finished)
  | c :: rest => do
    match ← (c.reconcile applied.length).run with
    | .error e => return (⟨applied, c :: rest⟩, .error e)
    | .ok a => walk (applied ++ [a]) rest

/-- Reads the results of the pending commands, waiting for every call. -/
def consume (r : Reconciliation) : Program (Reconciliation × Except Error Unit) :=
  walk r.applied r.pending

end Reconciliation

end BatchedSave
