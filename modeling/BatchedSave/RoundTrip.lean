import BatchedSave.Batch.Basic
import BatchedSave.Reconciliation.Steps
import BatchedSave.Reconciliation.Walk
import BatchedSave.Statement.Execution

/-!
# Round trips

A batch is sent as one statement over a connection that is open for just that long, and the
results are reconciled with its commands. A failed round trip comes back with a verdict: one that
it already has, or that of a store failure at the command whose results were being read.
-/
namespace BatchedSave

/-- Row totals stay below this. -/
def totalBound : Nat := UInt64.size

/-- The commands of a successful round trip with their generated values, and the rows each of them
affected. -/
structure Executed where
  commands : List Command := []
  rowsAffected : List Nat := []
  deriving DecidableEq, Repr

def Executed.total (e : Executed) : Nat :=
  e.rowsAffected.foldr (· + ·) 0

namespace Reconciliation

/-- Reads the results in either manner. -/
def consumeIn (manner : Manner) (r : Reconciliation) :
    Program (Reconciliation × Except (Abort Error) Unit) :=
  match manner with
  | .blocking => do
    let (r, result) ← r.consume
    return (r, result.mapError .failed)
  | .suspending => r.consumeSuspending

/-- The command a failure is put down to: the one whose results were being read, or the first one
if all had been applied. -/
def suspect (r : Reconciliation) : Option CommandRef :=
  match r.pending with
  | c :: _ => some (c.ref r.position)
  | [] => r.commands.head?.map (·.ref 0)

/-- Logs and counts a failure by its verdict; a failure without one becomes a store failure. -/
def classify (r : Reconciliation) (e : Error) : Program Error := do
  match e.verdict with
  | .conflict command _ _ =>
    Program.request (.log (.conflict e))
    Program.request (.record (.conflict command.table))
    return e
  | .violation _ _ =>
    Program.request (.log (.violation e))
    Program.request (.record .violation)
    return e
  | .cancelled =>
    Program.request (.log (.batchCancelled r.commands.length))
    Program.request (.record .cancelled)
    return e
  | .storeFailure _ _ =>
    Program.request (.record .storeFailure)
    return e
  | .unclassified =>
    Program.request (.log (.storeFailed e r.suspect))
    Program.request (.record .storeFailure)
    return .storeFailure r.suspect e

/-- What becomes of the batch once its results have been read. -/
def conclude (r : Reconciliation) (result : Except (Abort Error) Unit) :
    Program (Except (Abort Error) Executed) := do
  match result with
  | .ok () =>
    let executed : Executed := ⟨r.commands, r.rowsAffected⟩
    if executed.total < totalBound then return .ok executed
    else return .error .totalOutOfRange
  | .error (.failed e) => return .error (.failed (← r.classify e))
  | .error abort => return .error abort

end Reconciliation

namespace Batch

/-- Sends a batch in one round trip. Its span of metrics begins when the text is complete and ends
last, with no rows if the round trip failed. An empty batch does nothing. -/
def execute (b : Batch) (manner : Manner) : Program (Except (Abort Error) Executed) :=
  if b.commands.isEmpty then return .ok {}
  else do
    match ← b.statement with
    | (_, .error e) => return .error (.failed e)
    | (b, .ok statement) =>
      let start := Reconciliation.start b.commands
      Program.request (.record (.batchStart b.commands.length b.parameterCount))
      let result ← match ← statement.reading manner (start.consumeIn manner) with
        | .ok (r, result) => r.conclude result
        | .error e => start.conclude (.error (.failed e))
      let rows := match result with
        | .ok executed => executed.total
        | .error _ => 0
      Program.request (.record (.batchFinish b.commands.length rows ()))
      return result

end Batch

end BatchedSave
