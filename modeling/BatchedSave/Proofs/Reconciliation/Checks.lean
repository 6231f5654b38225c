import BatchedSave.Proofs.Program.Checks
import BatchedSave.Proofs.Reconciliation.Settlement

/-!
# What applying a result relies on

Which result a command is to have is worked out from its columns, anew at each of the steps that
read the result and again when it is applied. With checks, a result has to be of the shape that is
then expected, and a row of generated values has to have one for each read column. Both hold because
a row is read by the command's own width and nothing is applied to the command before that.
-/
namespace BatchedSave

namespace Command

/-- Writes generated values back, of which there has to be one for each read column. -/
def applyGeneratedChecked (c : Command) (index : Nat) (values : List Value) :
    ExceptT Error Checked Command := do
  if values.length ≠ c.readCount then
    Checked.broken ((Violation.generatedCount c.readCount values.length).toError index)
  (c.readColumns.zip values).forM fun (column, value) =>
    Program.request (.writeBack c.entry column.name value)
  return c.withGenerated values

/-- Applies a result that has been read, which has to be of the expected shape. -/
def completeChecked (c : Command) (index : Nat) (outcome : RowOutcome) :
    ExceptT Error Checked Applied :=
  match ResultShape.ofCommand c, outcome with
  | .generated _, .generated values => do
    let c ← c.applyGeneratedChecked index values
    Program.request (.record (.commandApplied c.table c.kind values.length))
    return ⟨c, 1⟩
  | .affectedCount, .affected rows =>
    if 0 < rows then do
      Program.request (.record (.commandApplied c.table c.kind 0))
      return ⟨c, rows⟩
    else throw (.conflict (c.ref index) 1 rows)
  | .generated _, .missing => throw (.conflict (c.ref index) 1 0)
  | .affectedCount, .missing => throw (Violation.missingCount.toError index)
  | expected, outcome => Checked.broken ((Violation.shape outcome expected).toError index)

/-- Reconciles one command. Reading has no checks of its own. -/
def reconcileChecked (c : Command) (manner : Manner) (index : Nat) :
    ExceptT Error Checked Applied := do
  Checked.part (manner.enterSet index)
  c.completeChecked index (← Checked.part (c.readOutcomeIn manner index))

/-- The result is of the shape that the command expects. -/
inductive Suits (c : Command) : RowOutcome → Prop
  | generated {values : List Value} (shape : ResultShape.ofCommand c = .generated values.length) :
    Suits c (.generated values)
  | affected (rows : Nat) (shape : ResultShape.ofCommand c = .affectedCount) :
    Suits c (.affected rows)
  | missing : Suits c .missing

variable {c : Command} {manner : Manner} {index : Nat} {trace : List Exchange}
variable {outcome : RowOutcome}

theorem readCount_of_generated {columns : Nat}
    (shape : ResultShape.ofCommand c = .generated columns) : c.readCount = columns := by
  unfold ResultShape.ofCommand at shape
  split at shape
  · cases shape
  · exact ResultShape.generated.inj shape

/-- A row is read by the width of the command, so what is read suits the command. -/
theorem readOutcomeIn_suits
    (run : (c.readOutcomeIn manner index).run.Runs trace (.ok outcome)) : c.Suits outcome := by
  rcases readOutcomeIn_delivers run with rfl | ⟨row, width, -, judged⟩
  · exact .missing
  cases shape : ResultShape.ofCommand c with
  | generated columns =>
    rw [shape] at width
    simp only [rowOutcome, shape, Except.ok.injEq] at judged
    subst judged
    exact .generated (shape.trans (congrArg _ width.symm))
  | affectedCount =>
    simp only [rowOutcome, shape] at judged
    split at judged
    next rows _ =>
      cases judged
      exact .affected rows shape
    next => cases judged

theorem applyGenerated_passes {values : List Value} (width : values.length = c.readCount) :
    (c.applyGenerated index values).run.Passes (c.applyGeneratedChecked index values).run := by
  unfold applyGenerated applyGeneratedChecked
  rw [if_neg (not_not_intro width), if_neg (not_not_intro width)]
  exact (Program.passes_forM (fun _ => Program.passes_lift _) _).attempt_bind fun _ _ _ =>
    Program.passes_pure _

theorem Suits.complete_passes (suits : c.Suits outcome) :
    (c.complete index outcome).run.Passes (c.completeChecked index outcome).run := by
  unfold complete completeChecked
  cases suits with
  | generated shape =>
    rw [shape]
    refine (applyGenerated_passes (readCount_of_generated shape).symm).attempt_bind
      fun _ c' _ => ?_
    exact (Program.passes_lift _).attempt_bind fun _ _ _ => Program.passes_pure _
  | affected rows shape =>
    rw [shape]
    dsimp only
    split
    · exact (Program.passes_lift _).attempt_bind fun _ _ _ => Program.passes_pure _
    · exact Program.passes_pure _
  | missing => cases ResultShape.ofCommand c <;> exact Program.passes_pure _

/-- A row of generated values for a command without read columns lapses. -/
example (table : String) (index : Nat) :
    (blank table none .delete 0).completeChecked index (.generated []) =
      Checked.broken ((Violation.shape (.generated []) .affectedCount).toError index) := rfl

theorem reconcile_passes (c : Command) (manner : Manner) (index : Nat) :
    (c.reconcileIn manner index).run.Passes (c.reconcileChecked manner index).run := by
  refine (Program.passes_part _).attempt_bind fun _ _ _ => ?_
  exact (Program.passes_part _).attempt_bind fun _ outcome read =>
    (readOutcomeIn_suits read).complete_passes

end Command

namespace Reconciliation

/-- Reconciles commands in order after those already applied. -/
def walkChecked (manner : Manner) (applied : List Applied) :
    List Command → Checked (Reconciliation × Except Error Unit)
  | [] => do
    let finished ← (manner.finish applied.length).run
    return (⟨applied, []⟩, finished)
  | c :: rest => do
    match ← (c.reconcileChecked manner applied.length).run with
    | .error e => return (⟨applied, c :: rest⟩, .error e)
    | .ok a => walkChecked manner (applied ++ [a]) rest

/-- Reads the results of commands by the one walk that both manners come to. -/
def consumeChecked (manner : Manner) (commands : List Command) :
    Checked (Reconciliation × Except (Abort Error) Unit) :=
  widened <$> walkChecked manner [] commands

theorem walk_passes (manner : Manner) (applied : List Applied) (pending : List Command) :
    (walkIn manner applied pending).Passes (walkChecked manner applied pending) := by
  induction pending generalizing applied with
  | nil => exact (Program.passes_lift _).bind fun _ _ _ => Program.passes_pure _
  | cons c rest ih =>
    refine (c.reconcile_passes manner applied.length).bind fun _ reconciled _ => ?_
    cases reconciled with
    | error e => exact Program.passes_pure _
    | ok a => exact ih (applied ++ [a])

/-- The loop over blocking calls and the machine of suspending ones pass alike. -/
theorem consume_passes (manner : Manner) (commands : List Command) :
    ((start commands).consumeIn manner).Passes (consumeChecked manner commands) := by
  rw [consumeIn_start, consumeChecked, ← bind_pure_comp, ← bind_pure_comp]
  exact (walk_passes manner [] commands).bind fun _ _ _ => Program.passes_pure _

end Reconciliation

end BatchedSave
