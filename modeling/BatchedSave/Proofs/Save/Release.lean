import Mathlib
import BatchedSave.Proofs.Batch.Fidelity
import BatchedSave.Proofs.Save.Course
import BatchedSave.Proofs.Save.Suspension

/-!
# The connection is always released

What is done with the connection is read off a trace as `operations`. Every round trip opens the
connection at most once, first, and closes it exactly once, last, on whichever of its exits it ends;
`Released` lists the forms this can take. The main statement, `run_releases`, cuts the operations of
a whole save into those of its round trips, of which only the last may have failed.
-/
namespace BatchedSave

/-- What is done with the connection, and whether it went well. A call that was dropped did not. -/
inductive Operation where
  | opened (well : Bool)
  | executed (well : Bool)
  | called (well : Bool)
  /-- The next call is not started because the caller has given up. -/
  | givenUp
  | closed
  deriving DecidableEq, Repr

def StoreCall.operation : StoreCall → Bool → Operation
  | connect => .opened
  | query _ | change _ | scalar _ => .executed
  | reader _ => .called

namespace Exchange

def operation? : Exchange → Option Operation
  | ⟨.store call, answer⟩ => some (call.operation answer.isOk)
  | ⟨.await call, answer⟩ => some (call.operation (answer.any (·.isOk)))
  | ⟨.fieldCount, _⟩ => some (.called true)
  | ⟨.cancelled, true⟩ => some .givenUp
  | ⟨.close, _⟩ => some .closed
  | _ => none

/-- An exchange that is none of the connection's leaves no operation. -/
theorem operation?_of_idle {x : Exchange} (idle : x.request.Idle) : x.operation? = none := by
  obtain ⟨request, answer⟩ := x
  cases request with
  | store _ | await _ | cancelled | settings | fieldCount | close | writeBack _ _ _ =>
    exact idle.elim
  | _ => rfl

theorem operation?_of_effect {x : Exchange} (effect : x.request.IsEffect) :
    x.operation? = none := by
  obtain ⟨request, answer⟩ := x
  cases request with
  | writeBack _ _ _ | record _ => rfl
  | _ => exact effect.elim

theorem not_givenUp_of_steadfast (x : Exchange) (steadfast : x.request.Steadfast) :
    x.operation? ≠ some .givenUp := by
  obtain ⟨request, answer⟩ := x
  cases request with
  | cancelled => exact steadfast.elim
  | await call => exact steadfast.elim
  | store call => cases call <;> simp [operation?, StoreCall.operation]
  | _ => simp [operation?]

theorem FailsToWrite.ofDialect {x : Exchange} (fails : x.FailsToWrite) : x.request.OfDialect := by
  obtain ⟨request, answer⟩ := x
  cases request with
  | fragment c => trivial
  | _ => exact fails.elim

end Exchange

/-- The operations of a trace, in order. -/
def operations (trace : List Exchange) : List Operation :=
  trace.filterMap Exchange.operation?

@[simp] theorem operations_nil : operations [] = [] := rfl

@[simp] theorem operations_append (before after : List Exchange) :
    operations (before ++ after) = operations before ++ operations after :=
  List.filterMap_append

theorem Idle.operations_eq_nil {trace : List Exchange} (idle : Idle trace) :
    operations trace = [] :=
  List.filterMap_eq_nil_iff.mpr fun x member => Exchange.operation?_of_idle (idle x member)

/-- An operation that does not go well: it fails, is dropped, or is not started. -/
def Stopped (operation : Bool → Operation) (ended : List Operation) : Prop :=
  ended = [operation false] ∨ ended = [.givenUp]

/-- What is done with a connection in one round trip. It did not open, nothing was executed, or
results were read; it is closed once, in the end. The round trip is whole if everything went well up
to there. -/
inductive Released : (whole : Bool) → List Operation → Prop
  | unopened {ended : List Operation} (stopped : Stopped .opened ended) :
    Released false (ended ++ [.closed])
  | unexecuted {ended : List Operation} (stopped : Stopped .executed ended) :
    Released false ([.opened true] ++ ended ++ [.closed])
  | whole {calls : List Operation} (well : ∀ call ∈ calls, call = .called true) :
    Released true ([.opened true, .executed true] ++ calls ++ [.closed])
  | interrupted {calls ended : List Operation} (well : ∀ call ∈ calls, call = .called true)
      (stopped : Stopped .called ended) :
    Released false ([.opened true, .executed true] ++ calls ++ ended ++ [.closed])

/-! ### One round trip -/

section RoundTrip

variable {manner : Manner} {trace : List Exchange}

theorem perform_operations {origin : Origin} {call : StoreCall} {result : Except Error call.Result}
    (run : (manner.perform origin call).run.Runs trace result) :
    match result with
    | .ok _ => operations trace = [call.operation true]
    | .error _ => Stopped call.operation (operations trace) := by
  rcases Program.runs_perform run with rfl | rfl | ⟨rfl, rfl | rfl⟩
  · cases result with
    | ok a => rfl
    | error e => exact .inl rfl
  · cases result with
    | ok a => rfl
    | error e => exact .inl rfl
  · exact .inr rfl
  · exact .inl rfl

/-- What a walk does with the connection: calls that go well, up to the one that ends it. -/
def Walked (trace : List Exchange) (ended : Option Error) : Prop :=
  ∃ calls, (∀ call ∈ calls, call = .called true) ∧
    (operations trace = calls ∨
      ended ≠ none ∧ ∃ last, Stopped .called last ∧ operations trace = calls ++ last)

theorem walked_of_quiet {ended : Option Error} (quiet : operations trace = []) :
    Walked trace ended :=
  ⟨[], fun _ member => (nomatch member), .inl quiet⟩

theorem Walked.append {first second : List Exchange} {ended : Option Error}
    (here : Walked first none) (there : Walked second ended) : Walked (first ++ second) ended := by
  obtain ⟨before, well, same | ⟨early, -⟩⟩ := here
  swap
  · exact absurd rfl early
  obtain ⟨calls, others, rest⟩ := there
  refine ⟨before ++ calls, List.forall_mem_append.mpr ⟨well, others⟩, ?_⟩
  rw [operations_append, same]
  rcases rest with whole | ⟨early, last, stopped, broken⟩
  · exact .inl (by rw [whole])
  · exact .inr ⟨early, last, stopped, by rw [broken, List.append_assoc]⟩

theorem Reconciliation.walked_account : Account manner Walked where
  nothing := walked_of_quiet rfl
  append := Walked.append
  called call trace result run := by
    have done := perform_operations run
    cases result with
    | ok a => exact ⟨[.called true], by simp, .inl done⟩
    | error e => exact ⟨[], by simp, .inr ⟨by simp [failure], _, done, rfl⟩⟩
  counted width := ⟨[.called true], by simp, .inl rfl⟩
  effect x isEffect := by
    refine walked_of_quiet ?_
    simp [operations, Exchange.operation?_of_effect isEffect]
  rejected _ := walked_of_quiet rfl

/-- However a trip ends, it releases the connection; results are read to the end only if nothing
was amiss with it. -/
theorem Trip.releases {statement : Statement} {commands : List Command} {r : Reconciliation}
    {read : Except Error Unit} (trip : Trip manner statement commands trace r read) :
    ∃ whole, Released whole (operations trace) ∧ (read = .ok () → whole = true) := by
  cases trip with
  | unopened failed =>
    have stopped := perform_operations failed
    refine ⟨false, ?_, nofun⟩
    rw [operations_append]
    exact .unopened stopped
  | unexecuted opened failed =>
    have open' := perform_operations opened
    have stopped := perform_operations failed
    refine ⟨false, ?_, nofun⟩
    simp only [operations_append, open']
    exact .unexecuted stopped
  | @read _ _ _ settings _ _ opened executed walked =>
    have open' := perform_operations opened
    have execute := perform_operations executed
    have prepared : operations (statement.preparing settings) = [] := rfl
    have called := Reconciliation.walked_account.walk walked
    have close : operations [⟨.close, ()⟩] = [.closed] := rfl
    simp only [operations_append, open', execute, prepared, close, StoreCall.operation]
    obtain ⟨calls, well, whole | ⟨early, last, stopped, broken⟩⟩ := called
    · refine ⟨true, ?_, fun _ => rfl⟩
      rw [whole]
      exact .whole well
    · refine ⟨false, ?_, fun succeeded => absurd (by rw [succeeded]; rfl) early⟩
      rw [broken]
      simpa only [List.append_nil, List.append_assoc, List.cons_append, List.nil_append] using
        Released.interrupted well stopped

theorem Wordless.unfailing (silent : Wordless trace) : ∀ x ∈ trace, ¬ x.FailsToWrite :=
  fun x member fails => silent x member fails.ofDialect

theorem Script.Fragmented.unfailing {commands : List Command} {added : String}
    (fragments : Fragmented commands trace (.ok added)) : ∀ x ∈ trace, ¬ x.FailsToWrite := by
  generalize same : (Except.ok added : Except Error String) = result at fragments
  induction fragments generalizing added with
  | nil => simp
  | failed junk e => cases same
  | @cons c rest trace result text more ih =>
    cases result with
    | error e => cases same
    | ok others => exact List.forall_mem_cons.mpr ⟨fun fails => fails rfl, ih rfl⟩

/-- A batch whose text is not written does not touch the connection; any other releases it. -/
theorem Batch.Posted.releases {b : Batch} {result : Except (Abort Error) Executed}
    (posted : b.Posted manner trace result) :
    ((∃ e, result = .error e) ∧ (∃ x ∈ trace, x.FailsToWrite) ∧ operations trace = []) ∨
    ((∀ x ∈ trace, ¬ x.FailsToWrite) ∧ ∃ whole, Released whole (operations trace) ∧
      (result.isOk → whole = true)) := by
  cases posted with
  | unwritten failed =>
    exact .inl ⟨⟨_, rfl⟩, failed.fails, failed.idle.operations_eq_nil⟩
  | @sent asked travelled concluding added footer r read result written trip concluded =>
    have begun : ∀ x ∈ ([⟨.footer, footer⟩,
        ⟨.record (.batchStart b.commands.length b.parameterCount), ()⟩] : List Exchange),
        ¬ x.FailsToWrite :=
      List.forall_mem_cons.mpr ⟨id, List.forall_mem_singleton.mpr id⟩
    have rest : Wordless (travelled ++ concluding ++
        [⟨.record (.batchFinish b.commands.length (rowsOf result) ()), ()⟩]) :=
      (trip.wordless.append concluded.wordless).append (wordless_cons id wordless_nil)
    refine .inr ⟨?_, ?_⟩
    · have all := List.forall_mem_append.mpr
        ⟨List.forall_mem_append.mpr ⟨written.unfailing, begun⟩, rest.unfailing⟩
      simpa only [List.append_assoc] using all
    · obtain ⟨whole, released, read⟩ := trip.releases
      have unasked := written.idle.operations_eq_nil
      have unconcluded := concluded.idle.operations_eq_nil
      refine ⟨whole, ?_, ?_⟩
      · have begun : operations [⟨.footer, footer⟩,
            ⟨.record (.batchStart b.commands.length b.parameterCount), ()⟩] = [] := rfl
        have finished : operations
            [⟨.record (.batchFinish b.commands.length (rowsOf result) ()), ()⟩] = [] := rfl
        simp only [operations_append, unasked, begun, unconcluded, finished, List.nil_append,
          List.append_nil]
        exact released
      · intro succeeded
        apply read
        cases concluded with
        | executed => rfl
        | outOfRange => rfl
        | failed e => cases succeeded

end RoundTrip

/-- The exchanges of a round trip that succeeded: the text was written, and the connection was
opened, used without trouble and closed. -/
def SuccessfulTrip (manner : Manner) (trip : List Exchange) : Prop :=
  ∃ (b : Batch) (executed : Executed), b.commands ≠ [] ∧
    (b.execute manner).Runs trip (.ok executed) ∧ (∀ x ∈ trip, ¬ x.FailsToWrite) ∧
    Released true (operations trip)

/-- The exchanges of a round trip that failed: the text could not be written and the connection was
not touched, or it was released all the same. -/
def FailedTrip (manner : Manner) (trip : List Exchange) : Prop :=
  ∃ (b : Batch) (abort : Abort Error), b.commands ≠ [] ∧
    (b.execute manner).Runs trip (.error abort) ∧
    ((∃ x ∈ trip, x.FailsToWrite) ∧ operations trip = [] ∨
      (∀ x ∈ trip, ¬ x.FailsToWrite) ∧ ∃ whole, Released whole (operations trip))


/-- The operations of the trace are those of round trips in it, one after the other. All of them
succeeded but for the last, and that did too unless something ended early. -/
def TripByTrip (manner : Manner) (trace : List Exchange) (ended : Option (Abort Error)) : Prop :=
  ∃ done last : List (List Exchange),
    (done ++ last).flatten.Sublist trace ∧ operations trace = (done ++ last).flatMap operations ∧
    (∀ trip ∈ done, SuccessfulTrip manner trip) ∧ (∀ trip ∈ last, FailedTrip manner trip) ∧
    last.length ≤ 1 ∧ (ended = none → last = [])

namespace Save

variable {s : Save} {manner : Manner} {trace : List Exchange}

theorem tripByTrip_of_idle (ended : Option (Abort Error)) (idle : Idle trace) :
    TripByTrip manner trace ended :=
  ⟨[], [], List.nil_sublist _, idle.operations_eq_nil, by simp, by simp, by simp, fun _ => rfl⟩

theorem tripByTrip_append {first second : List Exchange} {ended : Option (Abort Error)}
    (here : TripByTrip manner first none) (there : TripByTrip manner second ended) :
    TripByTrip manner (first ++ second) ended := by
  obtain ⟨before, broken, within, operated, succeeded, -, -, complete⟩ := here
  obtain rfl := complete rfl
  obtain ⟨done, last, within', operated', succeeded', failed, single, complete'⟩ := there
  rw [List.append_nil] at within operated
  refine ⟨before ++ done, last, ?_, ?_, List.forall_mem_append.mpr ⟨succeeded, succeeded'⟩, failed,
    single, complete'⟩
  · rw [List.append_assoc, List.flatten_append]
    exact within.append within'
  · simp [operated, operated']

theorem tripByTrip_posted {limits : Limits} {header : String} {group : List Command}
    {result : Except (Abort Error) Executed} (filled : group ≠ [])
    (run : ((s.holding limits header group).execute manner).Runs trace result) :
    TripByTrip manner trace (failure result) := by
  have posted := Batch.execute_runs rfl filled run
  cases result with
  | ok executed =>
    rcases posted.releases with ⟨⟨_, ⟨⟩⟩, -⟩ | ⟨written, whole, released, succeeded⟩
    rw [succeeded rfl] at released
    have trip : SuccessfulTrip manner trace := ⟨_, executed, filled, run, written, released⟩
    exact ⟨[trace], [], by simp, by simp, by simpa using trip, by simp, by simp, fun _ => rfl⟩
  | error abort =>
    have trip : FailedTrip manner trace := by
      refine ⟨_, abort, filled, run, ?_⟩
      rcases posted.releases with ⟨-, unwritten⟩ | ⟨written, whole, released, -⟩
      · exact .inl unwritten
      · exact .inr ⟨written, whole, released⟩
    exact ⟨[], [trace], by simp, by simp, by simp, by simpa using trip, by simp, nofun⟩

theorem tripByTrip_account : s.Account manner (TripByTrip manner) where
  idle := tripByTrip_of_idle none
  append := tripByTrip_append
  stopped trial := tripByTrip_of_idle _ trial.idle
  oversized trial := tripByTrip_of_idle _ trial.idle
  overflowed := by
    rintro trace ⟨done, last, within, operated, succeeded, failed, single, complete⟩
    exact ⟨done, last, within, operated, succeeded, failed, single, nofun⟩
  posted := tripByTrip_posted

/-- However a save ends, and in either manner, the operations on the connection are those of its
round trips, one after the other. Each round trip whose text was written opens the connection, uses
it only while it is open, and closes it once before the next begins or the save ends; one whose text
could not be written does not touch it. Only the last round trip may fail. The blocking save never
gives up. -/
theorem run_releases {commands : List Command} {result : Except (Abort Error) SaveOutcome}
    (run : (s.run manner commands).Runs trace result) :
    (∃ done last : List (List Exchange),
      (done ++ last).flatten.Sublist trace ∧ operations trace = (done ++ last).flatMap operations ∧
      (∀ trip ∈ done, SuccessfulTrip manner trip) ∧ (∀ trip ∈ last, FailedTrip manner trip) ∧
      last.length ≤ 1 ∧ (result.isOk → last = [])) ∧
    (manner = .blocking → .givenUp ∉ operations trace) := by
  refine ⟨?_, ?_⟩
  · obtain ⟨done, last, within, operated, succeeded, failed, single, complete⟩ :=
      tripByTrip_account.of_run run
    refine ⟨done, last, within, operated, succeeded, failed, single, ?_⟩
    intro finished
    apply complete
    cases result with
    | ok o => rfl
    | error abort => cases finished
  · rintro rfl given
    have waits : (s.run .suspending commands).waiting = s.run .blocking commands :=
      run_alike s commands
    rw [← waits] at run
    obtain ⟨x, member, gives⟩ := List.mem_filterMap.mp given
    have steadfast := (Program.asks_waiting _).of_mem run x member
    exact x.not_givenUp_of_steadfast steadfast gives

/-- The caller of two round trips gives up when the second connection has just been opened: it is
closed without a statement. -/
theorem run_releases_given_up :
    let save : Save := { limits := .caps 1 9 }
    let played := (save.run .suspending [.identityInsert 0, .identityInsert 1]).play
      (Surroundings.scripted (Dialect.plain atPlaceholder)).givingUp
      (7, { responses := [.ok [[[.int 42]]]] })
    (save.run .suspending [.identityInsert 0, .identityInsert 1]).Runs played.journal
      played.result ∧
    operations played.journal =
      [.opened true, .executed true, .called true, .called true, .called true, .called true,
        .called true, .closed, .opened true, .givenUp, .closed] ∧
    (∃ done last : List (List Exchange),
      (done ++ last).flatten.Sublist played.journal ∧
      operations played.journal = (done ++ last).flatMap operations ∧
      (∀ trip ∈ done, SuccessfulTrip .suspending trip) ∧
      (∀ trip ∈ last, FailedTrip .suspending trip) ∧
      last.length ≤ 1 ∧ (played.result.isOk → last = [])) ∧
    (Manner.suspending = .blocking → .givenUp ∉ operations played.journal) :=
  ⟨Program.runs_play _ _ _, by cbv, run_releases (Program.runs_play _ _ _)⟩

end Save

end BatchedSave
