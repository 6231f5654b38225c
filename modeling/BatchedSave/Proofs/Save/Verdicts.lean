import Mathlib
import BatchedSave.Proofs.Program.Surroundings
import BatchedSave.Proofs.RoundTrip.Classification
import BatchedSave.Proofs.Save.Ending
import BatchedSave.Saver

/-!
# What the caller is told about a failure

A failed save comes with an error, and its caller sees what `SaveError.ofError` makes of it. Both
can be asked whether the save met a conflict and whether it was cancelled. The error answers by its
verdict in one case and by its class in the other; what the caller sees answers by the verdict in
both, and by the class only where there is no verdict. An error of the save's own has a class that
goes with its verdict (`Error.Coherent`), so that it does not matter who is asked. It does matter
for some errors that a dialect or a store raises and a save hands on as they are; `Error.Source`
says where they come from.
-/
namespace BatchedSave

/-! ### Class and verdict -/

namespace Error

/-- A conflict by its class, without the verdict. -/
def IsClassConflict (e : Error) : Prop :=
  e.isJudged = false ∧ e.cls = .conflict

/-- A verdict was reached, and just one of class and verdict is that of a cancellation. -/
def IsMixedCancellation (e : Error) : Prop :=
  e.isJudged = true ∧ ¬ (e.cls = .cancelled ↔ e.verdict = .cancelled)

/-- Whoever is asked about the error answers the same. -/
structure Coherent (e : Error) : Prop where
  conflict : ¬ e.IsClassConflict
  cancellation : ¬ e.IsMixedCancellation

end Error

namespace SaveError

/-- Both answers agree on a conflict unless only the class knows of it. -/
theorem isConflict_ofError_eq_iff (e : Error) :
    (ofError e).isConflict = e.isConflict ↔ ¬ e.IsClassConflict := by
  obtain ⟨cls, origin, message, verdict⟩ := e
  cases verdict with
  | unclassified =>
    -- among unsupported commands the origin tells a rejected configuration
    by_cases config : origin = .config <;> cases cls <;>
      simp [ofError, isConflict, SaveErrorKind.ofError, Error.isConflict, Error.IsClassConflict,
        Error.isJudged, config]
  | conflict | violation | storeFailure | cancelled =>
    simp [ofError, isConflict, SaveErrorKind.ofError, Error.isConflict, Error.IsClassConflict,
      Error.isJudged]

/-- Both answers agree on a cancellation unless class and verdict do not. -/
theorem isCancelled_ofError_eq_iff (e : Error) :
    (ofError e).isCancelled = e.isCancelled ↔ ¬ e.IsMixedCancellation := by
  obtain ⟨cls, origin, message, verdict⟩ := e
  cases verdict with
  | unclassified =>
    by_cases config : origin = .config <;> cases cls <;>
      simp [ofError, isCancelled, SaveErrorKind.ofError, Error.isCancelled,
        Error.IsMixedCancellation, Error.isJudged, config]
  | conflict | violation | storeFailure | cancelled =>
    simp [ofError, isCancelled, SaveErrorKind.ofError, Error.isCancelled,
      Error.IsMixedCancellation, Error.isJudged]

end SaveError

namespace Error.Coherent

/-- An unsupported command is neither a conflict nor cancelled. -/
theorem unsupported (origin : Origin) (message : String) :
    (Error.plain .unsupported origin message).Coherent where
  conflict only := nomatch only.2
  cancellation mixed := nomatch mixed.1

theorem cancelled (origin : Origin) : (Error.cancelled origin).Coherent where
  conflict only := nomatch only.1
  cancellation mixed := mixed.2 ⟨fun _ => rfl, fun _ => rfl⟩

theorem storeFailure (suspect : Option CommandRef) (source : Error) :
    (Error.storeFailure suspect source).Coherent where
  conflict only := nomatch only.1
  cancellation mixed := mixed.2 ⟨nofun, nofun⟩

theorem rejection {e : Error} (rejection : Rejection e) : e.Coherent := by
  rcases rejection with ⟨v, index, rfl⟩ | ⟨c, index, rows, rfl⟩
  · exact ⟨fun only => (nomatch only.1), fun mixed => mixed.2 ⟨nofun, nofun⟩⟩
  · exact ⟨fun only => (nomatch only.1), fun mixed => mixed.2 ⟨nofun, nofun⟩⟩

end Error.Coherent

/-! ### Where the error of a save comes from -/

/-- The error was made by the save itself, or it is handed on as it is: one that the dialect raised
when it was asked for a fragment, or one with a verdict that came back from a call. -/
inductive Error.Source (trace : List Exchange) (e : Error) : Prop
  | own (coherent : e.Coherent)
  | written {c : Command} {junk : String}
    (failed : ⟨.fragment c, Rendering.mk junk (some e)⟩ ∈ trace)
  | answered {x : Exchange} (judged : e.isJudged = true) (member : x ∈ trace)
    (raised : x.error? = some e)

theorem Error.Source.mono {trace whole : List Exchange} {e : Error} (source : e.Source trace)
    (within : trace ⊆ whole) : e.Source whole := by
  cases source with
  | own coherent => exact .own coherent
  | written failed => exact .written (within failed)
  | answered judged member raised => exact .answered judged (within member) raised

/-- If the trace ends with an error, that has a source. -/
def Sourced (trace : List Exchange) : Option (Abort Error) → Prop
  | some (.failed e) => e.Source trace
  | _ => True

theorem Sourced.mono {trace whole : List Exchange} {ended : Option (Abort Error)}
    (sourced : Sourced trace ended) (within : trace ⊆ whole) : Sourced whole ended := by
  unfold Sourced at sourced ⊢
  split
  · exact sourced.mono within
  · trivial

/-- What is handed on is the error that was raised, if it has a verdict, or else a store failure. -/
theorem Raised.source {trace : List Exchange} {e : Error} (raised : Raised trace e)
    (r : Reconciliation) : (r.classified e).Source trace := by
  unfold Reconciliation.classified
  by_cases judged : e.isJudged = true
  · rw [if_pos judged]
    cases raised with
    | own member own => exact .answered judged member own
    | cancelled origin => exact .own (.cancelled origin)
    | rejected rejection => exact .own (.rejection rejection)
  · rw [if_neg judged]
    exact .own (.storeFailure r.suspect e)

theorem Batch.Posted.sourced {b : Batch} {manner : Manner} {trace : List Exchange}
    {result : Except (Abort Error) Executed} (posted : b.Posted manner trace result) :
    Sourced trace (failure result) := by
  cases posted with
  | unwritten failed =>
    obtain ⟨c, -, junk, last⟩ := failed.failing
    exact .written (List.mem_of_getLast? last)
  | sent written trip concluded =>
    cases concluded with
    | executed => trivial
    | outOfRange => trivial
    | failed e =>
      have raised := trip.blames.cause e rfl
      refine (raised.source _).mono fun x member => ?_
      simp [member]

/-- Caps judge a command without failing. -/
theorem Save.Trial.source {s : Save} {maxCommands maxParameters : Nat} {header : String}
    {held : List Command} {c : Command} {trace : List Exchange} {e : Error}
    (trial : s.Trial (.caps maxCommands maxParameters) header held c trace (.error e)) :
    e.Source trace := by
  cases trial with
  | failed _ judged =>
    cases judged with
    | refused => exact .own (.unsupported ..)
    | checked _ _ accepted =>
      obtain ⟨-, impossible⟩ := Program.runs_done_iff.mp accepted
      cases impossible

theorem Save.sourced_account {s : Save} {manner : Manner} {maxCommands maxParameters : Nat}
    (capped : s.limits = .caps maxCommands maxParameters) :
    s.Account manner Sourced where
  idle _ := trivial
  append _ there := there.mono (List.subset_append_right ..)
  stopped trial := by
    rw [capped] at trial
    exact trial.source
  oversized _ := .own (.unsupported ..)
  overflowed _ := trivial
  posted filled run := (Batch.execute_runs rfl filled run).sourced

/-! ### Two accounts of one save -/

/-- The caller of a save is told of each error what `SaveError.ofError` makes of it. -/
theorem Saver.save_tells {saver : Saver} {manner : Manner} {commands : List Command}
    {trace : List Exchange} {e : Error} {shown : Except (Abort SaveError) SaveOutcome}
    (run : (saver.plan.run manner commands).Runs trace (.error (.failed e))) :
    (saver.save manner commands).Runs trace shown ↔
      shown = .error (.failed (.ofError e)) := by
  have told : (saver.save manner commands).Runs trace (.error (.failed (.ofError e))) :=
    Program.runs_bind.mpr ⟨trace, [], _, (List.append_nil _).symm, run, .done _⟩
  constructor
  · intro other
    exact other.result_eq told
  · intro same
    rwa [same]

/-- When a save fails with an error, its caller is told of just one error, and this answers as that
one does, except in two cases: they differ on a conflict if the error has the class of a conflict
and no verdict, and on a cancellation if it has a verdict and just one of class and verdict is that
of a cancellation. The save makes no such error itself. In the first case the dialect has raised it,
in the second the dialect or the store, and the save hands it on as it is. -/
theorem Saver.save_verdicts {saver : Saver} {manner : Manner} {commands : List Command}
    {trace : List Exchange} {e : Error}
    (run : (saver.plan.run manner commands).Runs trace (.error (.failed e))) :
    let told := SaveError.ofError e
    (∀ shown, (saver.save manner commands).Runs trace shown ↔ shown = .error (.failed told)) ∧
    (told.isConflict = e.isConflict ↔ ¬ e.IsClassConflict) ∧
    (told.isCancelled = e.isCancelled ↔ ¬ e.IsMixedCancellation) ∧
    (e.IsClassConflict → ∃ c junk, ⟨.fragment c, Rendering.mk junk (some e)⟩ ∈ trace) ∧
    (e.IsMixedCancellation → (∃ c junk, ⟨.fragment c, Rendering.mk junk (some e)⟩ ∈ trace) ∨
      ∃ x ∈ trace, x.error? = some e) := by
  intro told
  have source : e.Source trace := (Save.sourced_account rfl).of_run run
  refine ⟨fun shown => save_tells run, SaveError.isConflict_ofError_eq_iff e,
    SaveError.isCancelled_ofError_eq_iff e, fun classConflict => ?_, fun mixed => ?_⟩
  · cases source with
    | own coherent => exact absurd classConflict coherent.conflict
    | written failed => exact ⟨_, _, failed⟩
    | answered judged =>
      rw [classConflict.1] at judged
      cases judged
  · cases source with
    | own coherent => exact absurd mixed coherent.cancellation
    | written failed => exact .inl ⟨_, _, failed⟩
    | answered _ member raised => exact .inr ⟨_, member, raised⟩

/-- The connection of a second round trip is reset, which the driver calls a cancellation. The save
fails with a store failure, and neither it nor what the caller sees is a cancellation. -/
theorem Saver.save_verdicts_behind_a_reset :
    let saver : Saver := { config := { batch := { maxBatchSize := 1 } } }
    let deletes : List Command := [.keyDelete 0, .keyDelete 1]
    let reset : Error := .plain .cancelled .connection "connection reset"
    let played := (saver.plan.run .suspending deletes).play (.scripted (.plain atPlaceholder))
      { responses := [.ok [[[.int 1]]], .error reset] }
    let failed : Error := .storeFailure (some ⟨0, "users", 1⟩) reset
    let told := SaveError.ofError failed
    (saver.plan.run .suspending deletes).Runs played.journal (.error (.failed failed)) ∧
    (∀ shown, (saver.save .suspending deletes).Runs played.journal shown ↔
      shown = .error (.failed told)) ∧
    told.isConflict = failed.isConflict ∧ told.isCancelled = failed.isCancelled ∧
    told.isCancelled = false := by
  intro saver deletes reset played failed told
  have run : (saver.plan.run .suspending deletes).Runs played.journal
      (.error (.failed failed)) := by
    have result : played.result = .error (.failed failed) := by cbv
    rw [← result]
    exact Program.runs_play ..
  obtain ⟨shows, conflict, cancellation, -⟩ := save_verdicts run
  have coherent : failed.Coherent := .storeFailure ..
  exact ⟨run, shows, conflict.mpr coherent.conflict, cancellation.mpr coherent.cancellation, rfl⟩

/-- A dialect fails with a conflict that has no verdict, and a statement with a cancellation that is
not of that class. The first save is told of a conflict and the second of a cancellation, while the
errors themselves deny both. -/
theorem Saver.save_verdicts_apart :
    let saver : Saver := { config := {} }
    let save (dialect : Dialect) (store : ScriptedStore) :=
      (saver.plan.run .blocking [.keyDelete 0]).play (.scripted dialect) store
    let stale : Error := .plain .conflict .generator "stale row"
    let dropped : Error := ⟨.internal, .connection, "connection dropped", .cancelled⟩
    let refused := save { header := "", fragment := fun _ => ⟨"", some stale⟩ } {}
    let lost := save (.plain atPlaceholder) { responses := [.error dropped] }
    let conflict : SaveError := ⟨.concurrencyConflict, .generator, "stale row"⟩
    let cancellation : SaveError := ⟨.cancelled, .connection, "connection dropped"⟩
    ((saver.plan.run .blocking [.keyDelete 0]).Runs refused.journal (.error (.failed stale)) ∧
      (saver.save .blocking [.keyDelete 0]).Runs refused.journal (.error (.failed conflict)) ∧
      conflict.isConflict ≠ stale.isConflict) ∧
    ((saver.plan.run .blocking [.keyDelete 0]).Runs lost.journal (.error (.failed dropped)) ∧
      (saver.save .blocking [.keyDelete 0]).Runs lost.journal (.error (.failed cancellation)) ∧
      cancellation.isCancelled ≠ dropped.isCancelled) := by
  intro saver save stale dropped refused lost conflict cancellation
  have refuses : (saver.plan.run .blocking [.keyDelete 0]).Runs refused.journal
      (.error (.failed stale)) := by
    have result : refused.result = .error (.failed stale) := by cbv
    rw [← result]
    exact Program.runs_play ..
  have loses : (saver.plan.run .blocking [.keyDelete 0]).Runs lost.journal
      (.error (.failed dropped)) := by
    have result : lost.result = .error (.failed dropped) := by cbv
    rw [← result]
    exact Program.runs_play ..
  exact ⟨⟨refuses, (save_tells refuses).mpr rfl, by decide⟩,
    ⟨loses, (save_tells loses).mpr rfl, by decide⟩⟩

end BatchedSave
