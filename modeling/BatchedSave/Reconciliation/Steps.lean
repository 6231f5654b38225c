import BatchedSave.Abort
import BatchedSave.Reconciliation.Basic

/-!
# The suspending walk

The same reading as steps between which the caller may give up. Values are staged until the row is
left; completing a command is one step that never suspends, so cancellation drops what is staged
and leaves the command untouched.
-/
namespace BatchedSave

/-- Where the suspending walk stands in the result of the first pending command. -/
inductive Step where
  | nextSet
  | enterRow
  | readValue (ordinal : Nat) (staged : List Value)
  | leaveRow (staged : List Value)
  | complete (outcome : RowOutcome)
  | finish
  deriving DecidableEq, Repr

namespace Step

/-- Steps that follow within one command. -/
def rank : Step → Nat
  | nextSet => 5
  | enterRow => 4
  | readValue .. => 3
  | leaveRow _ => 2
  | complete _ => 1
  | finish => 0

/-- Values still to be read when a row is `width` wide. -/
def unread (width : Nat) : Step → Nat
  | readValue ordinal _ => width - ordinal
  | _ => 0

end Step

namespace Reconciliation

/-- The width of the first pending command's row. -/
def width : List Command → Nat
  | [] => 0
  | c :: _ => (ResultShape.ofCommand c).fieldCount

/-- Goes on from a step. A row that has no pending command is out of range. -/
def advance (applied : List Applied) (pending : List Command) (step : Step) :
    Program (Reconciliation × Except (Abort Error) Unit) :=
  let stop (abort : Abort Error) : Program (Reconciliation × Except (Abort Error) Unit) :=
    return (⟨applied, pending⟩, .error abort)
  let index := applied.length
  match step with
  | .nextSet => do
    match ← (suspend .reader (.reader .nextSet)).run with
    | .error e => stop (.failed e)
    | .ok false => stop (.failed (Violation.missingResultSet.toError index))
    | .ok true => advance applied pending .enterRow
  | .enterRow => do
    match ← (suspend .reader (.reader .nextRow)).run with
    | .error e => stop (.failed e)
    | .ok false => advance applied pending (.complete .missing)
    | .ok true =>
      match pending.head? with
      | none => stop .positionOutOfRange
      | some c =>
        match c.checkWidth index (← Program.request .fieldCount) with
        | .error e => stop (.failed e)
        | .ok () => advance applied pending (.readValue 0 [])
  | .readValue ordinal staged =>
    if ordinal < width pending then do
      match ← (suspend .reader (.reader (.value ordinal))).run with
      | .error e => stop (.failed e)
      | .ok value => advance applied pending (.readValue (ordinal + 1) (staged ++ [value]))
    else advance applied pending (.leaveRow staged)
  | .leaveRow staged => do
    match ← (suspend .reader (.reader .nextRow)).run with
    | .error e => stop (.failed e)
    | .ok true => stop (.failed (Violation.extraRow.toError index))
    | .ok false =>
      match pending.head? with
      | none => stop .positionOutOfRange
      | some c =>
        match c.rowOutcome index staged with
        | .error e => stop (.failed e)
        | .ok outcome => advance applied pending (.complete outcome)
  | .complete outcome =>
    match pending with
    | [] => stop .positionOutOfRange
    | c :: rest => do
      match ← (c.complete index outcome).run with
      | .error e => stop (.failed e)
      | .ok a => advance (applied ++ [a]) rest (if rest.isEmpty then .finish else .nextSet)
  | .finish => do
    match ← (suspend .reader (.reader .nextSet)).run with
    | .error e => stop (.failed e)
    | .ok true =>
      stop (.failed (Violation.unconsumedResultSet.toError (applied.length + pending.length)))
    | .ok false => return (⟨applied, pending⟩, .ok ())
termination_by (pending.length, step.rank, step.unread (width pending))
decreasing_by all_goals (simp_wf; simp_all [Step.rank, Step.unread, Prod.lex_def]; try omega)

/-- Reads the results of the pending commands, ready to stop whenever the caller gives up. The
first result is read from the current result set. -/
def consumeSuspending (r : Reconciliation) : Program (Reconciliation × Except (Abort Error) Unit) :=
  advance r.applied r.pending (if r.commands.isEmpty then .finish else .enterRow)

end Reconciliation

end BatchedSave
