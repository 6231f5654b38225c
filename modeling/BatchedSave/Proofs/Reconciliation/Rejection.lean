import BatchedSave.Proofs.Program.Accounts
import BatchedSave.Proofs.Reconciliation.OneWalk

/-!
# What a walk does and why it ends early

A walk over results calls the reader, applies what it has read, and ends early because a call did or
because the results are rejected: with a violation, or with a conflict over a row that was not
there. `Account` is the rule by which a property of single calls becomes one of whole walks.
-/
namespace BatchedSave

/-- An error by which results that have been read are rejected. -/
def Rejection (e : Error) : Prop :=
  (∃ (v : Violation) (index : Nat), e = v.toError index) ∨
    ∃ (c : Command) (index rows : Nat), e = .conflict (c.ref index) 1 rows

theorem Violation.rejection (v : Violation) (index : Nat) : Rejection (v.toError index) :=
  .inl ⟨v, index, rfl⟩

theorem Command.conflict_rejection (c : Command) (index rows : Nat) :
    Rejection (.conflict (c.ref index) 1 rows) :=
  .inr ⟨c, index, rows, rfl⟩

theorem Rejection.isJudged {e : Error} (rejection : Rejection e) : e.isJudged = true := by
  rcases rejection with ⟨_, _, rfl⟩ | ⟨_, _, _, rfl⟩ <;> rfl

theorem Command.checkWidth_rejects {c : Command} {index found : Nat} {e : Error}
    (failed : c.checkWidth index found = .error e) : Rejection e := by
  simp only [checkWidth] at failed
  split at failed
  · cases failed
  · cases failed
    exact Violation.rejection _ _

theorem Command.rowOutcome_rejects {c : Command} {index : Nat} {values : List Value} {e : Error}
    (failed : c.rowOutcome index values = .error e) : Rejection e := by
  unfold rowOutcome at failed
  split at failed
  · cases failed
  · dsimp only at failed
    split at failed
    · cases failed
    · cases failed
      exact Violation.rejection _ _

/-- A request by which a result takes effect. -/
def Request.IsEffect : Request → Prop
  | .writeBack .. | .record (.commandApplied ..) => True
  | _ => False

namespace Reconciliation

open Program

/-- What is needed for a property of traces and early ends to hold of every walk. -/
structure Account (manner : Manner) (Property : List Exchange → Option Error → Prop) : Prop
    extends Composed Property where
  called : ∀ call, Accounts Property (manner.perform .reader (.reader call))
  counted : ∀ width, Property [⟨.fieldCount, width⟩] none
  effect : ∀ x : Exchange, x.request.IsEffect → Property [x] none
  rejected : ∀ {e}, Rejection e → Property [] (some e)

namespace Account

variable {manner : Manner} {Property : List Exchange → Option Error → Prop}
variable (account : Account manner Property)
include account

theorem complete (c : Command) (index : Nat) (outcome : RowOutcome) :
    Accounts Property (c.complete index outcome) := by
  have composed := account.toComposed
  have recorded (table : String) (kind : ChangeKind) (values : Nat) (a : Applied) :
      Accounts Property (liftM (request (.record (.commandApplied table kind values))) >>=
        fun _ => pure a : Attempt Applied) := by
    have counted : Accounts Property
        (liftM (request (.record (.commandApplied table kind values))) : Attempt Unit) :=
      accounts_request fun _ => account.effect ⟨.record (.commandApplied ..), ()⟩ trivial
    exact counted.bind composed fun _ => accounts_pure composed a
  have applied (values : List Value) : Accounts Property (c.applyGenerated index values) := by
    unfold Command.applyGenerated
    split
    · exact accounts_throw (account.rejected (Violation.rejection _ _))
    · refine (Accounts.forM composed _ fun (column, value) => ?_).bind composed fun _ =>
        accounts_pure composed _
      exact accounts_request fun _ =>
        account.effect ⟨.writeBack c.entry column.name value, ()⟩ trivial
  unfold Command.complete
  split
  · exact (applied _).bind composed fun _ => recorded _ _ _ _
  · split
    · exact recorded _ _ _ _
    · exact accounts_throw (account.rejected (c.conflict_rejection _ _))
  · exact accounts_throw (account.rejected (c.conflict_rejection _ _))
  · exact accounts_throw (account.rejected (Violation.rejection _ _))
  · exact accounts_throw (account.rejected (Violation.rejection _ _))

theorem readValues (ordinal count : Nat) :
    Accounts Property (manner.readValues ordinal count) := by
  have composed := account.toComposed
  induction count generalizing ordinal with
  | zero => exact accounts_pure composed _
  | succ count ih =>
    exact (account.called _).bind composed fun _ => (ih (ordinal + 1)).bind composed fun _ =>
      accounts_pure composed _

theorem leaveRow (c : Command) (index : Nat) (values : List Value) :
    Accounts Property (c.leaveRowIn manner index values) := by
  have composed := account.toComposed
  refine (account.called .nextRow).bind composed fun more => ?_
  cases more with
  | true => exact accounts_throw (account.rejected (Violation.rejection _ _))
  | false =>
    exact accounts_liftExcept composed fun e failed =>
      account.rejected (Command.rowOutcome_rejects failed)

theorem readOutcome (c : Command) (index : Nat) :
    Accounts Property (c.readOutcomeIn manner index) := by
  have composed := account.toComposed
  refine (account.called .nextRow).bind composed fun entered => ?_
  cases entered with
  | false => exact accounts_pure composed _
  | true =>
    have counted : Accounts Property (liftM (request .fieldCount) : Attempt Nat) :=
      accounts_request fun width => account.counted width
    have checked (found : Nat) : Accounts Property (liftExcept (c.checkWidth index found)) :=
      accounts_liftExcept composed fun e failed =>
        account.rejected (Command.checkWidth_rejects failed)
    exact counted.bind composed fun found => (checked found).bind composed fun _ =>
      (account.readValues 0 _).bind composed fun values => account.leaveRow c index values

theorem reconcile (c : Command) (index : Nat) :
    Accounts Property (c.reconcileIn manner index) := by
  have composed := account.toComposed
  have entered : Accounts Property (manner.enterSet index) := by
    unfold Manner.enterSet
    split
    · refine (account.called .nextSet).bind composed fun moved => ?_
      cases moved with
      | true => exact accounts_pure composed _
      | false => exact accounts_throw (account.rejected (Violation.rejection _ _))
    · exact accounts_pure composed _
  exact entered.bind composed fun _ => (account.readOutcome c index).bind composed fun outcome =>
    account.complete c index outcome

theorem finish (index : Nat) : Accounts Property (manner.finish index) := by
  have composed := account.toComposed
  refine (account.called .nextSet).bind composed fun more => ?_
  cases more with
  | true => exact accounts_throw (account.rejected (Violation.rejection _ _))
  | false => exact accounts_pure composed _

/-- A property that is accounted for holds of every walk. -/
theorem walk {applied : List Applied} {pending : List Command} {trace : List Exchange}
    {r : Reconciliation} {result : Except Error Unit}
    (run : (walkIn manner applied pending).Runs trace (r, result)) :
    Property trace (failure result) := by
  induction pending generalizing applied trace with
  | nil =>
    obtain ⟨_, _, finished, rfl, ended, done⟩ := runs_bind.mp run
    obtain ⟨rfl, same⟩ := runs_done_iff.mp done
    cases same
    rw [List.append_nil]
    exact account.finish _ _ _ ended
  | cons c rest ih =>
    obtain ⟨_, _, reconciled, rfl, head, tail⟩ := runs_bind.mp run
    cases reconciled with
    | error e =>
      obtain ⟨rfl, same⟩ := runs_done_iff.mp tail
      cases same
      rw [List.append_nil]
      exact account.reconcile c _ _ _ head
    | ok a => exact account.append (account.reconcile c _ _ _ head) (ih tail)

end Account

end Reconciliation

end BatchedSave
