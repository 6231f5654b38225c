import BatchedSave.Proofs.Batch.Fidelity
import BatchedSave.Proofs.RoundTrip.Reporting
import BatchedSave.SaveError

/-!
# Every failure is classified once

Whatever goes wrong between the opening of the connection and its closing goes wrong once and is
handed on: `Blames` says of each part of a round trip that its early end is the one thing that went
wrong in it. What is handed on has a verdict. An error that has one already is handed on as it is,
any other becomes the source of a store failure at the command that was reached. The event that
metrics are told and the kind that the caller of a save sees are told by two other parts of the
program; `execute_classifies` shows that both of them are those of the verdict.
-/
namespace BatchedSave

/-- What the caller of a save is told about a failure with this verdict. -/
def Verdict.kind? : Verdict → Option SaveErrorKind
  | unclassified => none
  | conflict .. => some .concurrencyConflict
  | violation .. => some .protocolViolation
  | storeFailure .. => some .storeFailure
  | cancelled => some .cancelled

/-- The caller gives up: before a call, or while one is pending. -/
def Exchange.GivesUp : Exchange → Prop
  | ⟨.cancelled, true⟩ => True
  | ⟨.await _, none⟩ => True
  | _ => False

/-- Where an error comes from: a call came back with it, the caller gave up, or what had been read
is rejected. -/
inductive Raised (trace : List Exchange) : Error → Prop
  | own {x : Exchange} {e : Error} (member : x ∈ trace) (own : x.error? = some e) : Raised trace e
  | cancelled {x : Exchange} (origin : Origin) (member : x ∈ trace) (gaveUp : x.GivesUp) :
    Raised trace (.cancelled origin)
  | rejected {e : Error} (rejection : Rejection e) : Raised trace e

theorem Raised.mono {trace whole : List Exchange} {e : Error} (raised : Raised trace e)
    (within : trace ⊆ whole) : Raised whole e := by
  cases raised with
  | own member own => exact .own (within member) own
  | cancelled origin member gaveUp => exact .cancelled origin (within member) gaveUp
  | rejected rejection => exact .rejected rejection

/-- What goes wrong in the trace is what it ends with, and it ends with nothing else. -/
structure Blames (trace : List Exchange) (ended : Option Error) : Prop where
  own : ∀ x ∈ trace, ∀ e, x.error? = some e → ended = some e
  givenUp : ∀ x ∈ trace, x.GivesUp → ∃ origin, ended = some (.cancelled origin)
  cause : ∀ e, ended = some e → Raised trace e

/-- Nothing goes wrong in the exchange. -/
def Exchange.Smooth (x : Exchange) : Prop :=
  x.error? = none ∧ ¬ x.GivesUp

variable {manner : Manner} {trace : List Exchange}

theorem blames_smooth (smooth : ∀ x ∈ trace, x.Smooth) : Blames trace none where
  own x member e own := by
    have none := (smooth x member).1
    rw [none] at own
    cases own
  givenUp x member gaveUp := absurd gaveUp (smooth x member).2
  cause := nofun

namespace Blames

variable {first second : List Exchange} {ended : Option Error}

theorem behind (here : Blames first none) (there : Blames second ended) :
    Blames (first ++ second) ended where
  own x member e own := by
    rcases List.mem_append.mp member with before | after
    · cases here.own x before e own
    · exact there.own x after e own
  givenUp x member gaveUp := by
    rcases List.mem_append.mp member with before | after
    · obtain ⟨_, impossible⟩ := here.givenUp x before gaveUp
      cases impossible
    · exact there.givenUp x after gaveUp
  cause e early := (there.cause e early).mono (List.subset_append_right first second)

theorem before (here : Blames first ended) (there : Blames second none) :
    Blames (first ++ second) ended where
  own x member e own := by
    rcases List.mem_append.mp member with before | after
    · exact here.own x before e own
    · cases there.own x after e own
  givenUp x member gaveUp := by
    rcases List.mem_append.mp member with before | after
    · exact here.givenUp x before gaveUp
    · obtain ⟨_, impossible⟩ := there.givenUp x after gaveUp
      cases impossible
  cause e early := (here.cause e early).mono (List.subset_append_left first second)

end Blames

/-! ### The use of the connection -/

theorem blames_own {x : Exchange} {e : Error} (own : x.error? = some e) (kept : ¬ x.GivesUp) :
    Blames [x] (some e) where
  own := List.forall_mem_singleton.mpr fun e' same => by rw [← same, own]
  givenUp := List.forall_mem_singleton.mpr fun gaveUp => absurd gaveUp kept
  cause := by
    rintro e' ⟨⟩
    exact .own (List.mem_singleton_self x) own

theorem blames_answer {call : StoreCall} (result : Except Error call.Result) :
    Blames [⟨.store call, result⟩] (failure result) ∧
      Blames [⟨.await call, some result⟩] (failure result) := by
  cases result with
  | ok a => exact ⟨blames_smooth (List.forall_mem_singleton.mpr ⟨rfl, id⟩),
      blames_smooth (List.forall_mem_singleton.mpr ⟨rfl, id⟩)⟩
  | error e => exact ⟨blames_own rfl id, blames_own rfl id⟩

/-- A call blames its own failure, or the caller who gave up. -/
theorem perform_blames {origin : Origin} {call : StoreCall} {result : Except Error call.Result}
    (run : (manner.perform origin call).run.Runs trace result) : Blames trace (failure result) := by
  have looked : Blames [⟨.cancelled, false⟩] none :=
    blames_smooth (by simp [Exchange.Smooth, Exchange.error?, Exchange.GivesUp])
  -- the caller who gives up is blamed for the cancellation
  have gaveUp (x : Exchange) (none : x.error? = none) (gives : x.GivesUp) :
      Blames [x] (some (.cancelled origin)) := by
    refine ⟨List.forall_mem_singleton.mpr fun e own => ?_, fun _ _ _ => ⟨origin, rfl⟩, ?_⟩
    · rw [none] at own
      cases own
    · rintro e ⟨⟩
      exact .cancelled origin (List.mem_singleton_self _) gives
  rcases Program.runs_perform run with rfl | rfl | ⟨rfl, rfl | rfl⟩
  · exact (blames_answer result).1
  · exact looked.behind (blames_answer result).2
  · exact gaveUp ⟨.cancelled, true⟩ rfl trivial
  · exact looked.behind (gaveUp ⟨.await call, none⟩ rfl trivial)

theorem Reconciliation.blames_account : Account manner Blames where
  nothing := blames_smooth nofun
  append := Blames.behind
  called _ _ _ run := perform_blames run
  counted _ := blames_smooth (List.forall_mem_singleton.mpr ⟨rfl, id⟩)
  effect x isEffect := by
    refine blames_smooth (List.forall_mem_singleton.mpr ?_)
    obtain ⟨request, answer⟩ := x
    cases request with
    | writeBack _ _ _ | record _ => exact ⟨rfl, id⟩
    | _ => exact isEffect.elim
  rejected := by
    rintro e rejection
    refine ⟨nofun, nofun, ?_⟩
    rintro e' ⟨⟩
    exact .rejected rejection

theorem Trip.blames {statement : Statement} {commands : List Command} {r : Reconciliation}
    {read : Except Error Unit} (trip : Trip manner statement commands trace r read) :
    Blames trace (failure read) := by
  have closed : Blames [⟨.close, ()⟩] none :=
    blames_smooth (List.forall_mem_singleton.mpr ⟨rfl, id⟩)
  have prepared (settings : Settings) : Blames (statement.preparing settings) none :=
    blames_smooth (by simp [Statement.preparing, Exchange.Smooth, Exchange.error?,
      Exchange.GivesUp])
  cases trip with
  | unopened failed => exact (perform_blames failed).before closed
  | @unexecuted _ _ settings _ opened failed =>
    have begun := (perform_blames opened).before (prepared settings)
    exact (begun.behind (perform_blames failed)).before closed
  | @read _ _ _ settings _ _ opened executed walked =>
    have begun := (perform_blames opened).before (prepared settings)
    have asked := begun.behind (perform_blames executed)
    exact (asked.behind (Reconciliation.blames_account.walk walked)).before closed

/-! ### The whole round trip -/

theorem smooth_of_dialect {x : Exchange} (asked : x.request.OfDialect) : x.Smooth := by
  obtain ⟨request, answer⟩ := x
  cases request with
  | header | footer | fragment c => exact ⟨rfl, id⟩
  | _ => exact asked.elim

theorem Reconciliation.Concluded.smooth {r : Reconciliation} {read : Except Error Unit}
    {result : Except (Abort Error) Executed} (concluded : r.Concluded read trace result) :
    ∀ x ∈ trace, x.Smooth := by
  cases concluded with
  | executed => exact nofun
  | outOfRange => exact nofun
  | failed e =>
    unfold Reconciliation.reports
    split <;> simp [Exchange.Smooth, Exchange.error?, Exchange.GivesUp]

/-- A text that cannot be written fails at a fragment. -/
theorem Batch.statement_fails {b after : Batch} {e : Error}
    (run : b.statement.Runs trace (after, .error e)) : ∃ x ∈ trace, x.FailsToWrite := by
  obtain ⟨_, _, ⟨_, text⟩, rfl, finalized, done⟩ := Program.runs_bind.mp run
  obtain ⟨rfl, same⟩ := Program.runs_done_iff.mp done
  rw [List.append_nil]
  cases text with
  | ok text => cases same
  | error e' =>
    rcases finalize_runs finalized with ⟨-, -, -, ⟨⟩⟩ | ⟨-, _, -, rendered⟩
    cases rendered with
    | failed fragments => exact fragments.fails

/-- The failure is put down to the command that was reached; behind the last one, to the first. -/
theorem Accomplished.suspects {commands : List Command} {r : Reconciliation}
    {settled : List Settlement} (accomplished : Accomplished commands trace r settled)
    (filled : commands ≠ []) :
    ∃ k c, commands[k]? = some c ∧
      k = (if settled.length < commands.length then settled.length else 0) ∧
      r.suspect = some (c.ref k) := by
  have split := accomplished.commands_eq
  have position : r.position = settled.length := by
    rw [Reconciliation.position, accomplished.applied_eq, List.length_map]
  unfold Reconciliation.suspect
  cases pending : r.pending with
  | cons c rest =>
    rw [pending] at split
    have reached : settled.length < commands.length := by
      rw [split, List.length_append, List.length_map, List.length_cons]
      omega
    refine ⟨settled.length, c, ?_, (if_pos reached).symm, by rw [position]⟩
    rw [split, List.getElem?_append_right (by simp), List.length_map, Nat.sub_self]
    rfl
  | nil =>
    rw [pending, List.append_nil] at split
    have passed : ¬ settled.length < commands.length := by
      rw [split, List.length_map]
      omega
    obtain ⟨first, others, rfl⟩ : ∃ first others, settled = first :: others :=
      List.exists_cons_of_ne_nil fun none => filled (by rw [split, none]; rfl)
    refine ⟨0, first.before, by rw [split]; rfl, (if_neg passed).symm, ?_⟩
    have after : r.commands.head? = some first.after := by
      rw [Reconciliation.commands, accomplished.applied_eq, pending]
      rfl
    -- a command keeps its table and entry when it receives its row
    have same : first.after.ref 0 = first.before.ref 0 := by
      rw [first.received.fields]
      rfl
    rw [after, Option.map_some, same]

/-- How the failure `raised` of a round trip comes back as `handed`. It is the one thing that went
wrong. If it had a verdict it is handed on as it is; if not, it is the source of a store failure at
the command whose result was being read, or at the first one when all had been applied. Metrics are
told of one failure, and it is that of the verdict, as is the kind a caller of a save is told. -/
structure Classifies (commands : List Command) (trace : List Exchange) (raised handed : Error) :
    Prop where
  blames : Blames trace (some raised)
  kept : raised.isJudged = true → handed = raised
  wrapped : raised.isJudged = false → handed.cls = .internal ∧ handed.origin = .store ∧
    ∃ k c, commands[k]? = some c ∧
      k = (let position := (events trace).countP (·.isApplication)
        if position < commands.length then position else 0) ∧
      handed.verdict = .storeFailure (some ⟨k, c.table, c.entry⟩) raised
  told : ∃ event kind, handed.verdict.event? = some event ∧ handed.verdict.kind? = some kind ∧
    (events trace).filter (·.isFailure) = [event] ∧ SaveErrorKind.ofError handed = kind

/-- Applications are no failures, and the ends of a span are neither. -/
theorem Batch.Span.failures {b : Batch} {result : Except (Abort Error) Executed}
    {settled : List Settlement} {untouched : List Command}
    (span : b.Span manner trace result settled untouched) :
    (events trace).filter (·.isFailure) = failuresOf result ∧
      (events trace).countP (·.isApplication) = settled.length := by
  have applied : (settled.map (·.before.application)).filter (·.isFailure) = [] := by
    simp [Command.application, Metrics.Event.isFailure]
  have counted : (settled.map (·.before.application)).countP (·.isApplication) =
      settled.length := by
    rw [List.countP_eq_length.mpr (by simp [Command.application, Metrics.Event.isApplication]),
      List.length_map]
  have failed : ∀ event ∈ failuresOf result,
      event.isFailure = true ∧ event.isApplication = false := by
    intro event member
    unfold failuresOf at member
    split at member
    · have told := Option.mem_toList.mp member
      have failure := Verdict.event?_isFailure told
      cases event <;> first | exact ⟨failure, rfl⟩ | cases failure
    · cases member
  have all : (failuresOf result).filter (·.isFailure) = failuresOf result :=
    List.filter_eq_self.mpr fun event member => (failed event member).1
  have none : (failuresOf result).countP (·.isApplication) = 0 :=
    List.countP_eq_zero.mpr fun event member => by
      rw [(failed event member).2]
      exact Bool.false_ne_true
  have begun (commands parameters : Nat) :
      (.batchStart commands parameters : Metrics.Notice).isFailure = false ∧
        (.batchStart commands parameters : Metrics.Notice).isApplication = false := ⟨rfl, rfl⟩
  have finished (commands rows : Nat) :
      (Metrics.Event.batchFinish commands rows ()).isFailure = false ∧
        (Metrics.Event.batchFinish commands rows ()).isApplication = false := ⟨rfl, rfl⟩
  rw [span.reported]
  constructor
  · simp only [List.filter_cons, List.filter_append, applied, all, begun, finished,
      Bool.false_eq_true, if_false, List.filter_nil, List.nil_append, List.append_nil]
  · simp only [List.countP_cons, List.countP_append, counted, none, begun, finished,
      Bool.false_eq_true, if_false, List.countP_nil, Nat.add_zero]

theorem Verdict.told {e : Error} (judged : e.isJudged = true) :
    ∃ event kind, e.verdict.event? = some event ∧ e.verdict.kind? = some kind ∧
      SaveErrorKind.ofError e = kind := by
  obtain ⟨cls, origin, message, verdict⟩ := e
  cases verdict with
  | unclassified => cases judged
  | conflict | violation | storeFailure | cancelled => exact ⟨_, _, rfl, rfl, rfl⟩

namespace Batch

/-- A round trip whose text is written comes back with an error just if something has gone wrong,
and then that is classified. -/
theorem execute_classifies {b : Batch} {result : Except (Abort Error) Executed}
    (filled : b.commands ≠ []) (written : ∀ x ∈ trace, ¬ x.FailsToWrite)
    (run : (b.execute manner).Runs trace result) :
    match result with
    | .ok _ | .error .totalOutOfRange =>
      Blames trace none ∧ (events trace).filter (·.isFailure) = []
    | .error .positionOutOfRange => False
    | .error (.failed handed) => ∃ raised, Classifies b.commands trace raised handed := by
  cases execute_dispatches filled run with
  | unwritten failed =>
    obtain ⟨x, member, fails⟩ := statement_fails failed
    exact absurd fails (written x member)
  | @sent writing travelled concluding _ statement r read result made trip concluded =>
    obtain ⟨settled, accomplished, complete⟩ := trip.accomplishes
    have span := Span.of_trip made trip accomplished complete concluded
    have asked : Blames writing none :=
      blames_smooth fun x member => smooth_of_dialect (statement_ofDialect made x member)
    have began : Blames [⟨.record (.batchStart b.commands.length b.parameterCount), ()⟩] none :=
      blames_smooth (List.forall_mem_singleton.mpr ⟨rfl, id⟩)
    have finished :
        Blames [⟨.record (.batchFinish b.commands.length (rowsOf result) ()), ()⟩] none :=
      blames_smooth (List.forall_mem_singleton.mpr ⟨rfl, id⟩)
    have blames := (((asked.behind began).behind trip.blames).before
      (blames_smooth concluded.smooth)).before finished
    have failures := span.failures
    obtain ⟨k, c, here, reached, suspect⟩ := accomplished.suspects filled
    cases concluded with
    | executed => exact ⟨blames, failures.1⟩
    | outOfRange => exact ⟨blames, failures.1⟩
    | failed e =>
      refine ⟨e, blames, ?_, ?_, ?_⟩
      · intro judged
        exact if_pos judged
      · intro unjudged
        have classified : r.classified e = .storeFailure r.suspect e :=
          if_neg (by rw [unjudged]; exact Bool.false_ne_true)
        refine ⟨by rw [classified]; rfl, by rw [classified]; rfl, k, c, here, ?_, ?_⟩
        · simpa only [failures.2] using reached
        · rw [classified, suspect]
          rfl
      · obtain ⟨event, kind, counted, kinded, told⟩ := Verdict.told (r.classified_isJudged e)
        refine ⟨event, kind, counted, kinded, ?_, told⟩
        rw [failures.1, failuresOf, counted]
        rfl

/-- The stream of results is lost behind the result of the first of two deletes: the failure is put
down to the second one. -/
theorem execute_classifies_a_lost_stream :
    let b : Batch :=
      { placeholder := atPlaceholder, limits := .caps 2 9, options := {}
        commands := [.keyDelete 0, .keyDelete 1] }
    let lost : Error := .plain .unsupported .reader "stream lost"
    ∃ (trace : List Exchange) (handed : Error), b.commands ≠ [] ∧
      (∀ x ∈ trace, ¬ x.FailsToWrite) ∧
      (b.execute .blocking).Runs trace (.error (.failed handed)) ∧
      handed.verdict = .storeFailure (some ⟨1, "users", 1⟩) lost ∧
      ∃ raised, Classifies b.commands trace raised handed := by
  intro b lost
  let statement : Statement := b.statementOf "a;b;"
  let r : Reconciliation := ⟨[⟨.keyDelete 0, 1⟩], [.keyDelete 1]⟩
  let trace : List Exchange :=
    [⟨.fragment (.keyDelete 0), Rendering.mk "a;" none⟩,
     ⟨.fragment (.keyDelete 1), Rendering.mk "b;" none⟩, ⟨.footer, ""⟩,
     ⟨.record (.batchStart 2 0), ()⟩, ⟨.store .connect, .ok ()⟩, ⟨.settings, ({} : Settings)⟩,
     ⟨.log (.executingCommand false (statement.bind {})), ()⟩,
     ⟨.store (.query (statement.bind {})), .ok ()⟩, ⟨.store (.reader .nextRow), .ok true⟩,
     ⟨.fieldCount, (1 : Nat)⟩, ⟨.store (.reader (.value 0)), .ok (.int 1)⟩,
     ⟨.store (.reader .nextRow), .ok false⟩, ⟨.record (.commandApplied "users" .delete 0), ()⟩,
     ⟨.store (.reader .nextSet), .ok true⟩, ⟨.store (.reader .nextRow), .error lost⟩, ⟨.close, ()⟩,
     ⟨.log (.storeFailed lost r.suspect), ()⟩, ⟨.record .storeFailure, ()⟩,
     ⟨.record (.batchFinish 2 0 ()), ()⟩]
  have written : ∀ x ∈ trace, ¬ x.FailsToWrite := by simp [trace, Exchange.FailsToWrite]
  have run : (b.execute .blocking).Runs trace (.error (.failed (r.classified lost))) :=
    .ask _ (.ask _ (.ask _ (.ask _ (.ask _ (.ask _ (.ask _ (.ask _ (.ask _ (.ask _ (.ask _ (.ask _
      (.ask _ (.ask _ (.ask _ (.ask _ (.ask _ (.ask _ (.ask _ (.done _)))))))))))))))))))
  exact ⟨trace, _, List.cons_ne_nil _ _, written, run, rfl,
    execute_classifies (List.cons_ne_nil _ _) written run⟩

end Batch

end BatchedSave
