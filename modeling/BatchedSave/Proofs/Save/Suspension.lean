import BatchedSave.Proofs.Program.Waiting
import BatchedSave.Proofs.Reconciliation.OneWalk
import BatchedSave.Proofs.Save.Local

/-!
# The suspending save is the blocking save

As long as nobody gives up, the two manners of a save ask for the same things in the same order and
come to the same result. The two walks over results are the only programs that are written apart;
both are one walk, and from there on the two manners are compared part by part.
-/
namespace BatchedSave

open Program

/-- What is done without the store is done in the same way in either manner. -/
theorem alike_of_local {α : Type} {p : Program α} (asked : p.Asks Request.Local) :
    Alike fun _ => p :=
  alike_of_steadfast (asked.imp fun r here => by cases r <;> trivial)

theorem alike_request (r : Request) (steadfast : r.Steadfast) : Alike fun _ => request r :=
  alike_of_steadfast (asks_request steadfast)

theorem alike_lift {α ε : Type} {p : Manner → Program α} (alike : Alike p) :
    Alike fun manner => (liftM (p manner) : ExceptT ε Program α).run :=
  alike.bind fun _ => rfl

/-! ### Reading results -/

section Reading

theorem readValues_alike (ordinal count : Nat) :
    Alike fun manner => (manner.readValues ordinal count).run := by
  induction count generalizing ordinal with
  | zero => rfl
  | succ count ih =>
    exact (alike_perform _ _).attempt_bind fun _ => (ih (ordinal + 1)).attempt_bind fun _ => rfl

theorem enterSet_alike (index : Nat) : Alike fun manner => (manner.enterSet index).run := by
  unfold Manner.enterSet
  split
  · refine (alike_perform .reader (.reader .nextSet)).attempt_bind fun moved => ?_
    cases moved <;> rfl
  · rfl

theorem finish_alike (index : Nat) : Alike fun manner => (manner.finish index).run := by
  refine (alike_perform .reader (.reader .nextSet)).attempt_bind fun more => ?_
  cases more <;> rfl

theorem leaveRowIn_alike (c : Command) (index : Nat) (values : List Value) :
    Alike fun manner => (c.leaveRowIn manner index values).run := by
  refine (alike_perform .reader (.reader .nextRow)).attempt_bind fun more => ?_
  cases more with
  | true => rfl
  | false => exact alike_of_steadfast (asks_liftExcept _)

theorem readRowIn_alike (c : Command) (index : Nat) :
    Alike fun manner => (c.readRowIn manner index).run :=
  (alike_lift (alike_request .fieldCount trivial)).attempt_bind fun _ =>
    (alike_of_steadfast (asks_liftExcept _)).attempt_bind fun _ =>
      (readValues_alike 0 _).attempt_bind fun _ => leaveRowIn_alike c index _

theorem readOutcomeIn_alike (c : Command) (index : Nat) :
    Alike fun manner => (c.readOutcomeIn manner index).run := by
  refine (alike_perform .reader (.reader .nextRow)).attempt_bind fun entered => ?_
  cases entered with
  | true => exact readRowIn_alike c index
  | false => rfl

theorem reconcileIn_alike (c : Command) (index : Nat) :
    Alike fun manner => (c.reconcileIn manner index).run :=
  (enterSet_alike index).attempt_bind fun _ => (readOutcomeIn_alike c index).attempt_bind fun _ =>
    alike_of_local (c.complete_local index _)

theorem walkIn_alike (applied : List Applied) (pending : List Command) :
    Alike fun manner => Reconciliation.walkIn manner applied pending := by
  induction pending generalizing applied with
  | nil => exact (finish_alike _).bind fun _ => rfl
  | cons c rest ih =>
    refine (reconcileIn_alike c _).bind fun reconciled => ?_
    cases reconciled with
    | error e => rfl
    | ok a => exact ih (applied ++ [a])

theorem consumeIn_alike (commands : List Command) :
    Alike fun manner => (Reconciliation.start commands).consumeIn manner := by
  -- from here on the loop and the machine are the same walk
  simp only [Reconciliation.consumeIn_start]
  exact (walkIn_alike [] commands).map _

end Reading

/-! ### Round trips and saves -/

theorem reading_alike {α : Type} (statement : Statement) {use : Manner → Program α}
    (alike : Alike use) : Alike fun manner => statement.reading manner (use manner) := by
  have prepared (settings : Settings) : Alike fun _ => statement.prepare settings :=
    (alike_request (.log _) trivial).bind fun _ => rfl
  have command : Alike fun _ => statement.command.run :=
    (alike_lift (alike_request .settings trivial)).attempt_bind fun settings =>
      alike_lift (prepared settings)
  have used : Alike fun manner => (manner.perform .connection .connect >>= fun _ => do
      manner.perform .store (.query (← statement.command))
      use manner : Attempt α).run :=
    (alike_perform _ _).attempt_bind fun _ => command.attempt_bind fun _ =>
      (alike_perform _ _).attempt_bind fun _ => alike_lift alike
  exact used.bind fun _ => (alike_request .close trivial).bind fun _ => rfl

theorem execute_alike (b : Batch) : Alike fun manner => b.execute manner := by
  unfold Batch.execute
  split
  · rfl
  · refine (alike_of_local b.statement_local).bind fun (b, text) => ?_
    cases text with
    | error e => rfl
    | ok statement =>
      refine (alike_request (.record _) trivial).bind fun _ => ?_
      refine (reading_alike statement (consumeIn_alike b.commands)).bind fun read => ?_
      rcases read with e | ⟨r, result⟩
      · refine (alike_of_local (Reconciliation.conclude_local _ _)).bind fun result => ?_
        exact (alike_request (.record _) trivial).bind fun _ => rfl
      · refine (alike_of_local (r.conclude_local _)).bind fun result => ?_
        exact (alike_request (.record _) trivial).bind fun _ => rfl

theorem liftExcept_alike {α : Type} (x : Except (Abort Error) α) :
    Alike fun _ => (liftExcept x : Course α).run := by
  cases x <;> rfl

theorem sendWhole_alike (b : Batch) (o : SaveOutcome) :
    Alike fun manner => (Save.sendWhole manner b o).run :=
  Alike.attempt_bind (x := fun manner => ExceptT.mk (b.execute manner)) (execute_alike b)
    fun _ => liftExcept_alike _

theorem sendSingle_alike (save : Save) (o : SaveOutcome) (c : Command) :
    Alike fun manner => (save.sendSingle manner o c).run := by
  refine (alike_of_local (Save.tryAdd_local _ c)).attempt_bind fun (single, admission) => ?_
  cases admission with
  | added => exact sendWhole_alike single o
  | full _ => rfl

theorem send_alike (save : Save) (b : Batch) (o : SaveOutcome) :
    Alike fun manner => (save.send manner b o).run := by
  have singles (commands : List Command) (o : SaveOutcome) :
      Alike fun manner => (commands.foldlM (save.sendSingle manner) o).run := by
    induction commands generalizing o with
    | nil => rfl
    | cons c rest ih => exact (sendSingle_alike save o c).attempt_bind fun o => ih o
  refine (alike_lift (alike_request (.log _) trivial)).attempt_bind fun _ => ?_
  split
  · exact singles b.commands o
  · exact sendWhole_alike b o

theorem fill_alike (save : Save) (o : SaveOutcome) (b : Batch) (commands : List Command) :
    Alike fun manner => (save.fill manner o b commands).run := by
  induction commands generalizing o b with
  | nil =>
    refine (alike_lift (alike_request (.pull none) trivial)).attempt_bind fun _ => ?_
    split
    · rfl
    · exact send_alike save b o
  | cons c rest ih =>
    refine (alike_lift (alike_request (.pull (some c)) trivial)).attempt_bind fun _ => ?_
    refine (alike_of_local (Save.tryAdd_local b c)).attempt_bind fun (b, admission) => ?_
    cases admission with
    | added => exact ih o b
    | full c =>
      dsimp only
      split
      · rfl
      · exact (send_alike save b o).attempt_bind fun o =>
          (alike_of_local (save.startBatch_local c)).attempt_bind fun b => ih o b

/-- The suspending save, in which nobody gives up, is the blocking save. -/
theorem run_alike (save : Save) (commands : List Command) :
    Alike fun manner => save.run manner commands :=
  fill_alike save {} save.emptyBatch commands

namespace Save

/-- Where nobody gives up and calls are answered alike in both manners, the suspending save comes to
the result of the blocking one, leaves the surroundings in the same state, and but for its looks at
the token makes the same exchanges: calls on the store with the same statements and ordinals, values
written back, events and log entries, all in the same order. -/
theorem run_manners_agree {σ : Type} {A : Surroundings σ} (patient : A.Patient) (save : Save)
    (commands : List Command) (s : σ) :
    let suspending := (save.run .suspending commands).play A s
    let blocking := (save.run .blocking commands).play A s
    suspending.result = blocking.result ∧ suspending.state = blocking.state ∧
      suspending.journal.filterMap Exchange.waited? = blocking.journal := by
  intro suspending blocking
  have same : blocking = { suspending with
      journal := suspending.journal.filterMap Exchange.waited? } := by
    have waits := Program.play_waiting patient (save.run .suspending commands) s
    rwa [run_alike save commands] at waits
  rw [same]
  exact ⟨rfl, rfl, rfl⟩

/-- Two inserts in one round trip that is answered with two generated keys. -/
theorem run_manners_agree_on_inserts :
    let A := Surroundings.scripted (Dialect.plain atPlaceholder)
    let save : Save := { limits := .caps 2 9 }
    let commands := [Command.identityInsert 0, Command.identityInsert 1]
    let store : ScriptedStore := { responses := [.ok [[[.int 7]], [[.int 8]]]] }
    let suspending := (save.run .suspending commands).play A store
    let blocking := (save.run .blocking commands).play A store
    A.Patient ∧ blocking.result.toOption.map (·.rowsAffected) = some 2 ∧
      suspending.result = blocking.result ∧ suspending.state = blocking.state ∧
      suspending.journal.filterMap Exchange.waited? = blocking.journal :=
  ⟨Surroundings.scripted_patient _, rfl,
    run_manners_agree (Surroundings.scripted_patient _) _ _ _⟩

end Save

end BatchedSave
