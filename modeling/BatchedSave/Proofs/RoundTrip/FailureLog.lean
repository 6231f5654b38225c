import BatchedSave.Proofs.RoundTrip.Classification

/-!
# How failures are logged

A failure is logged where it is classified, apart from the event that metrics are told. `failureLog`
reads off a trace what was logged about failures. `execute_logs` says that a failed round trip has
one entry there, the entry of the verdict under which the failure is handed on, unless the failure
was a store failure already when it arose: that one is counted, but it is not logged.
-/
namespace BatchedSave

/-- The entry reports how a round trip failed. -/
def Log.Entry.isFailure : Log.Entry → Bool
  | conflict _ | violation _ | batchCancelled _ | storeFailed .. => true
  | _ => false

/-- What an exchange logs about a failure. -/
def Exchange.failure? : Exchange → Option Log.Entry
  | ⟨.log entry, _⟩ => if entry.isFailure then some entry else none
  | _ => none

/-- What was logged about failures in a trace, in order. -/
def failureLog (trace : List Exchange) : List Log.Entry :=
  trace.filterMap Exchange.failure?

@[simp] theorem failureLog_append (before after : List Exchange) :
    failureLog (before ++ after) = failureLog before ++ failureLog after :=
  List.filterMap_append

/-- The level of a failure with this verdict. -/
def Verdict.level? : Verdict → Option Log.Level
  | unclassified => none
  | conflict .. | violation .. => some .warn
  | storeFailure .. => some .error
  | cancelled => some .debug

namespace Error

/-- The entry of a failure with a verdict that ended a round trip of so many commands. A store
failure is logged with the failure behind it. -/
def logEntry (e : Error) (commands : Nat) : Option Log.Entry :=
  match e.verdict with
  | .unclassified => none
  | .conflict .. => some (.conflict e)
  | .violation .. => some (.violation e)
  | .storeFailure probable source => some (.storeFailed source probable)
  | .cancelled => some (.batchCancelled commands)

def isStoreFailure (e : Error) : Bool :=
  match e.verdict with
  | .storeFailure .. => true
  | _ => false

/-- Every verdict has its entry, which is logged at the level of the verdict. -/
theorem exists_logEntry {e : Error} (judged : e.isJudged = true) (commands : Nat) :
    ∃ entry, e.logEntry commands = some entry ∧ e.verdict.level? = some entry.level := by
  obtain ⟨cls, origin, message, verdict⟩ := e
  cases verdict with
  | unclassified => cases judged
  | conflict | violation | storeFailure | cancelled => exact ⟨_, rfl, rfl⟩

end Error

variable {manner : Manner} {trace : List Exchange}

/-! ### Nothing is logged about a failure before the connection has been closed -/

/-- A request that logs a failure. -/
def Request.LogsFailure (r : Request) : Prop :=
  ∃ entry, r = .log entry ∧ entry.isFailure = true

theorem Exchange.failure?_eq_none {x : Exchange} (other : ¬ x.request.LogsFailure) :
    x.failure? = none := by
  obtain ⟨request, answer⟩ := x
  cases request with
  | log entry => exact if_neg fun isFailure => other ⟨entry, rfl, isFailure⟩
  | _ => rfl

theorem failureLog_eq_nil (other : ∀ x ∈ trace, ¬ x.request.LogsFailure) :
    failureLog trace = [] :=
  List.filterMap_eq_nil_iff.mpr fun x member => x.failure?_eq_none (other x member)

theorem failureLog_of_dialect (asked : ∀ x ∈ trace, x.request.OfDialect) :
    failureLog trace = [] := by
  refine failureLog_eq_nil fun x member => ?_
  have here := asked x member
  rintro ⟨entry, same, -⟩
  rw [same] at here
  exact here

theorem failureLog_perform {origin : Origin} {call : StoreCall} {result : Except Error call.Result}
    (run : (manner.perform origin call).run.Runs trace result) : failureLog trace = [] := by
  rcases Program.runs_perform run with rfl | rfl | ⟨-, rfl | rfl⟩ <;> rfl

theorem Reconciliation.unlogged_account : Account manner fun trace _ => failureLog trace = [] where
  nothing := rfl
  append here there := by rw [failureLog_append, here, there, List.append_nil]
  called _ _ _ run := failureLog_perform run
  counted _ := rfl
  effect x isEffect := by
    refine failureLog_eq_nil (List.forall_mem_singleton.mpr ?_)
    rintro ⟨entry, same, -⟩
    rw [same] at isEffect
    exact isEffect
  rejected _ := rfl

/-- While the connection is used no failure is logged; the statement is. -/
theorem Trip.failureLog_eq_nil {statement : Statement} {commands : List Command}
    {r : Reconciliation} {read : Except Error Unit}
    (trip : Trip manner statement commands trace r read) : failureLog trace = [] := by
  have closed : failureLog [⟨.close, ()⟩] = [] := rfl
  have prepared (settings : Settings) : failureLog (statement.preparing settings) = [] := rfl
  cases trip with
  | unopened failed => simp [failureLog_perform failed, closed]
  | unexecuted opened failed =>
    simp [failureLog_perform opened, prepared, failureLog_perform failed, closed]
  | read opened executed walked =>
    simp [failureLog_perform opened, prepared, failureLog_perform executed,
      Reconciliation.unlogged_account.walk walked, closed]

/-! ### The whole round trip -/

/-- What is logged about a failure is the entry of its verdict, and nothing if it comes with that of
a store failure. -/
theorem Reconciliation.reports_failureLog (r : Reconciliation) (e : Error) :
    failureLog (r.reports e) =
      if e.isStoreFailure then [] else ((r.classified e).logEntry r.commands.length).toList := by
  unfold reports classified Error.isJudged Error.isStoreFailure Error.logEntry
  cases judged : e.verdict <;> simp only [judged, if_true] <;> rfl

/-- Commands are applied one by one and none is lost. -/
theorem Accomplished.length_commands {commands : List Command} {r : Reconciliation}
    {settled : List Settlement} (accomplished : Accomplished commands trace r settled) :
    r.commands.length = commands.length := by
  rw [Reconciliation.commands, accomplished.applied_eq, accomplished.commands_eq]
  simp

/-- How the failure `raised` of so many commands is handed on as `handed`, and the entry for that:
it is the one of the verdict, at the level of the verdict. -/
structure Describes (commands : Nat) (raised handed : Error) (entry : Log.Entry) : Prop where
  kept : raised.isJudged = true → handed = raised
  wrapped : raised.isJudged = false → handed.verdict.source = some raised
  logEntry_eq : handed.logEntry commands = some entry
  level_eq : handed.verdict.level? = some entry.level

theorem Reconciliation.classified_described (r : Reconciliation) (e : Error) :
    ∃ entry, Describes r.commands.length e (r.classified e) entry := by
  obtain ⟨entry, same, level⟩ := (r.classified e).exists_logEntry (r.classified_isJudged e)
    r.commands.length
  refine ⟨entry, fun judged => if_pos judged, fun unjudged => ?_, same, level⟩
  have classified : r.classified e = .storeFailure r.suspect e :=
    if_neg (by rw [unjudged]; exact Bool.false_ne_true)
  rw [classified]
  rfl

namespace Batch

/-- What goes wrong in a round trip whose statement was made went wrong while the connection was
used. -/
theorem blames_sent {b after : Batch} {writing travelled concluding : List Exchange}
    {statement : Statement} {r : Reconciliation} {read : Except Error Unit}
    {result : Except (Abort Error) Executed}
    (made : b.statement.Runs writing (after, .ok statement))
    (trip : Trip manner statement b.commands travelled r read)
    (concluded : r.Concluded read concluding result) (commands parameters rows : Nat) :
    Blames (writing ++ [⟨.record (.batchStart commands parameters), ()⟩] ++ travelled ++
      concluding ++ [⟨.record (.batchFinish commands rows ()), ()⟩]) (failure read) := by
  have asked : Blames writing none :=
    blames_smooth fun x member => smooth_of_dialect (statement_ofDialect made x member)
  have counted (event : Metrics.Notice) : Blames [⟨.record event, ()⟩] none :=
    blames_smooth (List.forall_mem_singleton.mpr ⟨rfl, id⟩)
  have used := (asked.behind (counted (.batchStart commands parameters))).behind trip.blames
  have closed := used.before (blames_smooth concluded.smooth)
  exact closed.before (counted (.batchFinish commands rows ()))

/-- Nothing but the conclusion of a round trip logs a failure. -/
theorem failureLog_sent {b after : Batch} {writing travelled : List Exchange}
    {statement : Statement} {r : Reconciliation} {read : Except Error Unit}
    (made : b.statement.Runs writing (after, .ok statement))
    (trip : Trip manner statement b.commands travelled r read) (concluding : List Exchange)
    (commands parameters rows : Nat) :
    failureLog (writing ++ [⟨.record (.batchStart commands parameters), ()⟩] ++ travelled ++
      concluding ++ [⟨.record (.batchFinish commands rows ()), ()⟩]) = failureLog concluding := by
  have counted (event : Metrics.Notice) : failureLog [⟨.record event, ()⟩] = [] := rfl
  simp only [failureLog_append, failureLog_of_dialect (statement_ofDialect made), counted,
    trip.failureLog_eq_nil, List.nil_append, List.append_nil]

/-- A round trip whose text is written logs no failure unless it comes back with an error. That
error is the one thing that went wrong, under its verdict, and one entry is logged about it: that of
the verdict, at its level. But nothing is logged if what went wrong came as a store failure. -/
theorem execute_logs {b : Batch} {result : Except (Abort Error) Executed}
    (filled : b.commands ≠ []) (written : ∀ x ∈ trace, ¬ x.FailsToWrite)
    (run : (b.execute manner).Runs trace result) :
    match result with
    | .ok _ | .error .totalOutOfRange => failureLog trace = []
    | .error .positionOutOfRange => False
    | .error (.failed handed) => ∃ raised entry, Blames trace (some raised) ∧
        Describes b.commands.length raised handed entry ∧
        failureLog trace = if raised.isStoreFailure then [] else [entry] := by
  cases execute_dispatches filled run with
  | unwritten failed =>
    obtain ⟨x, member, fails⟩ := statement_fails failed
    exact absurd fails (written x member)
  | @sent _ _ concluding _ _ r _ _ made trip concluded =>
    have log := failureLog_sent made trip concluding b.commands.length b.parameterCount
      (rowsOf result)
    have blames := blames_sent made trip concluded b.commands.length b.parameterCount
      (rowsOf result)
    cases concluded with
    | executed => exact log
    | outOfRange => exact log
    | failed e =>
      obtain ⟨settled, accomplished, -⟩ := trip.accomplishes
      obtain ⟨entry, described⟩ := r.classified_described e
      rw [r.reports_failureLog, described.logEntry_eq] at log
      rw [accomplished.length_commands] at described
      exact ⟨e, entry, blames, described, log⟩

/-- The caller gives up while two deletes are being executed. -/
theorem execute_logs_a_cancellation :
    let b : Batch :=
      { placeholder := atPlaceholder, limits := .caps 2 9, options := {}
        commands := [.keyDelete 0, .keyDelete 1] }
    let handed : Error := .cancelled .store
    ∃ trace : List Exchange, b.commands ≠ [] ∧ (∀ x ∈ trace, ¬ x.FailsToWrite) ∧
      (b.execute .suspending).Runs trace (.error (.failed handed)) ∧
      failureLog trace = [.batchCancelled 2] ∧ handed.verdict.level? = some .debug ∧
      ∃ raised entry, Blames trace (some raised) ∧
        Describes b.commands.length raised handed entry ∧
        failureLog trace = if raised.isStoreFailure then [] else [entry] := by
  intro b handed
  let statement : Statement := b.statementOf "a;b;"
  let trace : List Exchange :=
    [⟨.fragment (.keyDelete 0), Rendering.mk "a;" none⟩,
     ⟨.fragment (.keyDelete 1), Rendering.mk "b;" none⟩, ⟨.footer, ""⟩,
     ⟨.record (.batchStart 2 0), ()⟩, ⟨.cancelled, false⟩, ⟨.await .connect, some (.ok ())⟩,
     ⟨.settings, ({} : Settings)⟩, ⟨.log (.executingCommand false (statement.bind {})), ()⟩,
     ⟨.cancelled, false⟩, ⟨.await (.query (statement.bind {})), none⟩, ⟨.close, ()⟩,
     ⟨.log (.batchCancelled 2), ()⟩, ⟨.record .cancelled, ()⟩, ⟨.record (.batchFinish 2 0 ()), ()⟩]
  have written : ∀ x ∈ trace, ¬ x.FailsToWrite := by simp [trace, Exchange.FailsToWrite]
  have run : (b.execute .suspending).Runs trace (.error (.failed handed)) :=
    .ask _ (.ask _ (.ask _ (.ask _ (.ask _ (.ask _ (.ask _ (.ask _ (.ask _ (.ask _ (.ask _ (.ask _
      (.ask _ (.ask _ (.done _))))))))))))))
  exact ⟨trace, List.cons_ne_nil _ _, written, run, rfl, rfl,
    execute_logs (List.cons_ne_nil _ _) written run⟩

/-- The store fails to execute a delete and calls that a store failure itself. The error is of the
gravest level, but nothing is logged about it. -/
theorem execute_leaves_a_store_failure_unlogged :
    let b : Batch :=
      { placeholder := atPlaceholder, limits := .caps 2 9, options := {}
        commands := [.keyDelete 0] }
    let handed : Error :=
      ⟨.internal, .store, "disk full", .storeFailure none (.plain .internal .store "disk full")⟩
    ∃ trace : List Exchange, b.commands ≠ [] ∧ (∀ x ∈ trace, ¬ x.FailsToWrite) ∧
      (b.execute .blocking).Runs trace (.error (.failed handed)) ∧
      handed.verdict.level? = some .error ∧ failureLog trace = [] := by
  intro b handed
  let statement : Statement := b.statementOf "a;"
  let trace : List Exchange :=
    [⟨.fragment (.keyDelete 0), Rendering.mk "a;" none⟩, ⟨.footer, ""⟩,
     ⟨.record (.batchStart 1 0), ()⟩, ⟨.store .connect, .ok ()⟩, ⟨.settings, ({} : Settings)⟩,
     ⟨.log (.executingCommand false (statement.bind {})), ()⟩,
     ⟨.store (.query (statement.bind {})), .error handed⟩, ⟨.close, ()⟩,
     ⟨.record .storeFailure, ()⟩, ⟨.record (.batchFinish 1 0 ()), ()⟩]
  have written : ∀ x ∈ trace, ¬ x.FailsToWrite := by simp [trace, Exchange.FailsToWrite]
  have run : (b.execute .blocking).Runs trace (.error (.failed handed)) :=
    .ask _ (.ask _ (.ask _ (.ask _ (.ask _ (.ask _ (.ask _ (.ask _ (.ask _ (.ask _
      (.done _))))))))))
  exact ⟨trace, List.cons_ne_nil _ _, written, run, rfl, rfl⟩

end Batch

end BatchedSave
