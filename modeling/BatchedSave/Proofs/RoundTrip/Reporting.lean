import Mathlib.Algebra.BigOperators.Group.List.Basic
import Mathlib.Algebra.GroupWithZero.Nat
import BatchedSave.Proofs.Program.Events
import BatchedSave.Proofs.Reconciliation.Settlement
import BatchedSave.Proofs.RoundTrip.Announcement

/-!
# What a round trip reports

A round trip reports each command as it is applied and, if it fails, the failure by the verdict that
was reached in the end. `Trip.accomplishes` tells of every use of a connection which commands it
settled and what metrics heard of it; `execute_reports` tells the same of a whole round trip, whose
span begins before everything else and ends behind it.
-/
namespace BatchedSave

/-- What metrics are told when the command has been applied. -/
def Command.application (c : Command) : Metrics.Notice :=
  .commandApplied c.table c.kind c.readCount

/-- What metrics are told of a failure with this verdict. -/
def Verdict.event? : Verdict → Option Metrics.Notice
  | unclassified => none
  | conflict command _ _ => some (.conflict command.table)
  | violation _ _ => some .violation
  | storeFailure _ _ => some .storeFailure
  | cancelled => some .cancelled

theorem Verdict.event?_isFailure {v : Verdict} {event : Metrics.Notice}
    (told : v.event? = some event) : event.isFailure = true := by
  cases v <;> cases told <;> rfl

theorem Error.exists_event {e : Error} (judged : e.isJudged = true) :
    ∃ event, e.verdict.event? = some event := by
  obtain ⟨cls, origin, message, verdict⟩ := e
  cases verdict with
  | unclassified => cases judged
  | conflict | violation | storeFailure | cancelled => exact ⟨_, rfl⟩

variable {manner : Manner} {trace : List Exchange}

/-! ### Commands -/

section Commands

variable {c : Command} {index : Nat}

theorem applyGenerated_events {values : List Value} {result : Except Error Command}
    (run : (c.applyGenerated index values).run.Runs trace result) : events trace = [] := by
  have unrecorded : (c.applyGenerated index values).run.Asks fun r => ¬ r.IsRecord := by
    unfold Command.applyGenerated
    split
    · trivial
    · refine (Program.Asks.forM _ fun pair => ?_).attempt_bind fun _ => trivial
      exact (Program.asks_request (by rintro ⟨event, same⟩; cases same)).lift
  exact events_eq_nil_of_asks unrecorded run

theorem throw_events {e : Error} {result : Except Error Applied}
    (run : (throw e : Attempt Applied).run.Runs trace result) :
    ∃ e, result = .error e ∧ events trace = [] := by
  obtain ⟨rfl, rfl⟩ := Program.runs_throw.mp run
  exact ⟨e, rfl, rfl⟩

/-- Metrics are told of a command when it has been applied, and of nothing else. -/
theorem complete_events {outcome : RowOutcome} {result : Except Error Applied}
    (run : (c.complete index outcome).run.Runs trace result) :
    (∃ e, result = .error e ∧ events trace = []) ∨
      (∃ a, result = .ok a) ∧ events trace = [c.application] := by
  unfold Command.complete at run
  split at run
  next columns values shape =>
    rcases Program.runs_attempt_bind.mp run with ⟨e, rfl, failed⟩ | ⟨_, _, after, rfl, wrote, rest⟩
    · exact .inl ⟨e, rfl, applyGenerated_events failed⟩
    obtain ⟨_, _, _, rfl, recorded, done⟩ := Program.runs_lift_bind.mp rest
    obtain rfl := Program.runs_request_iff.mp recorded
    obtain ⟨rfl, rfl⟩ := Program.runs_attempt_pure.mp done
    obtain ⟨-, ⟨-, ⟨_, ⟨⟩⟩, -⟩ | ⟨full, same, -⟩⟩ := applyGenerated_effects wrote
    cases same
    refine .inr ⟨⟨_, rfl⟩, ?_⟩
    rw [events_append, applyGenerated_events wrote, List.nil_append, full]
    rfl
  next rows shape =>
    split at run
    next =>
      obtain ⟨_, _, _, rfl, recorded, done⟩ := Program.runs_lift_bind.mp run
      obtain rfl := Program.runs_request_iff.mp recorded
      obtain ⟨rfl, rfl⟩ := Program.runs_attempt_pure.mp done
      have counts := Command.ofCommand_eq_affectedCount_iff.mp shape
      refine .inr ⟨⟨_, rfl⟩, ?_⟩
      rw [Command.application, counts]
      rfl
    next none => exact .inl (throw_events run)
  next => exact .inl (throw_events run)
  next => exact .inl (throw_events run)
  next => exact .inl (throw_events run)

theorem events_of_reader {α : Type} {p : Program α} {a : α} (asked : p.Asks Request.OfReader)
    (run : p.Runs trace a) : events trace = [] := by
  refine events_eq_nil_of_asks (asked.imp fun r ofReader => ?_) run
  rintro ⟨event, rfl⟩
  exact ofReader

theorem reconcileIn_events {result : Except Error Applied}
    (run : (c.reconcileIn manner index).run.Runs trace result) :
    (∃ e, result = .error e ∧ events trace = []) ∨
      (∃ a, result = .ok a) ∧ events trace = [c.application] := by
  rcases Program.runs_attempt_bind.mp run with ⟨e, rfl, failed⟩ | ⟨_, _, _, rfl, entered, rest⟩
  · exact .inl ⟨e, rfl, events_of_reader enterSet_asks failed⟩
  have entering := events_of_reader enterSet_asks entered
  rcases Program.runs_attempt_bind.mp rest with ⟨e, rfl, failed⟩ | ⟨_, _, _, rfl, read, completed⟩
  · have reading := events_of_reader readOutcomeIn_asks failed
    exact .inl ⟨e, rfl, by rw [events_append, entering, reading]; rfl⟩
  have reading := events_of_reader readOutcomeIn_asks read
  simp only [events_append, entering, reading, List.nil_append]
  exact complete_events completed

end Commands

/-! ### The use of the connection -/

/-- Settlements that were reconciled report their commands. -/
theorem events_settled {settled : List Settlement}
    (reconciled : ∀ s ∈ settled, ∃ index,
      (s.before.reconcileIn manner index).run.Runs s.exchanges (.ok s.applied)) :
    events (settled.flatMap (·.exchanges)) = settled.map (·.before.application) := by
  induction settled with
  | nil => rfl
  | cons s settled ih =>
    obtain ⟨⟨index, here⟩, others⟩ := List.forall_mem_cons.mp reconciled
    obtain ⟨_, ⟨⟩, -⟩ | ⟨-, told⟩ := reconcileIn_events here
    rw [List.flatMap_cons, events_append, told, ih others]
    rfl

theorem Reconciliation.Tail.unreported {index : Nat} {pending : List Command}
    {result : Except Error Unit} (tail : Tail manner index pending trace result) :
    events trace = [] := by
  cases tail with
  | finished run => exact events_of_reader finish_asks run
  | stopped run =>
    obtain ⟨_, -, silent⟩ | ⟨⟨_, ⟨⟩⟩, -⟩ := reconcileIn_events run
    exact silent

/-- The commands below the position of `r` were settled within the trace. It delivers their rows and
no other unless commands are pending, and it writes back and reports just these commands. -/
structure Accomplished (commands : List Command) (trace : List Exchange) (r : Reconciliation)
    (settled : List Settlement) : Prop where
  commands_eq : commands = settled.map (·.before) ++ r.pending
  applied_eq : r.applied = settled.map (·.applied)
  within : settled.flatMap (·.exchanges) <:+: trace
  delivered : settled.flatMap (·.row.zipIdx) <+: deliveries trace
  whole : r.pending = [] → deliveries trace = settled.flatMap (·.row.zipIdx)
  written : writeBacks trace = settled.flatMap fun s => s.before.writeBacks s.row
  reported : events trace = settled.map (·.before.application)

/-- A walk accomplishes what it settles. -/
theorem Reconciliation.walkIn_accomplishes {commands : List Command} {r : Reconciliation}
    {result : Except Error Unit} (run : (walkIn manner [] commands).Runs trace (r, result)) :
    ∃ settled, Accomplished commands trace r settled ∧ (result = .ok () → r.pending = []) := by
  obtain ⟨settled, rest, pending, applied, rfl, reconciled, tail⟩ := walkIn_parts run
  refine ⟨settled, ?_, ?_⟩
  · constructor
    · exact pending
    · exact applied
    · exact (List.prefix_append _ _).isInfix
    · rw [deliveries_append, deliveries_settled]
      exact List.prefix_append _ _
    · intro all
      rw [deliveries_append, deliveries_settled, tail.undelivered all, List.append_nil]
    · rw [writeBacks_append, writeBacks_settled, tail.unwritten, List.append_nil]
    · rw [events_append, events_settled reconciled, tail.unreported, List.append_nil]
  · rintro rfl
    exact tail.pending_eq_nil

/-- A part of a trip in which nothing is delivered, written back or reported. -/
structure Uneventful (trace : List Exchange) : Prop where
  undelivered : deliveries trace = []
  unwritten : writeBacks trace = []
  unreported : events trace = []

theorem Uneventful.append {first second : List Exchange} (here : Uneventful first)
    (there : Uneventful second) : Uneventful (first ++ second) where
  undelivered := by rw [deliveries_append, here.undelivered, there.undelivered]; rfl
  unwritten := by rw [writeBacks_append, here.unwritten, there.unwritten]; rfl
  unreported := by rw [events_append, here.unreported, there.unreported]; rfl

theorem uneventful_perform {origin : Origin} {call : StoreCall} {result : Except Error call.Result}
    (other : ∀ ordinal, call ≠ .reader (.value ordinal))
    (run : (manner.perform origin call).run.Runs trace result) : Uneventful trace := by
  have undelivered := deliveries_call other run
  rcases Program.runs_perform run with rfl | rfl | ⟨-, rfl | rfl⟩ <;>
    exact ⟨undelivered, rfl, rfl⟩

theorem Statement.preparing_uneventful (s : Statement) (settings : Settings) :
    Uneventful (s.preparing settings) :=
  ⟨rfl, rfl, rfl⟩

/-- What happens before and after a part of a trip changes nothing about what it accomplishes. -/
theorem Accomplished.enclose {commands : List Command} {r : Reconciliation}
    {settled : List Settlement} {before after : List Exchange}
    (accomplished : Accomplished commands trace r settled) (opening : Uneventful before)
    (closing : Uneventful after) : Accomplished commands (before ++ trace ++ after) r settled := by
  have deliveries_eq : deliveries (before ++ trace ++ after) = deliveries trace := by
    rw [deliveries_append, deliveries_append, opening.undelivered, closing.undelivered,
      List.nil_append, List.append_nil]
  constructor
  · exact accomplished.commands_eq
  · exact accomplished.applied_eq
  · exact accomplished.within.trans ⟨before, after, rfl⟩
  · rw [deliveries_eq]
    exact accomplished.delivered
  · rw [deliveries_eq]
    exact accomplished.whole
  · rw [writeBacks_append, writeBacks_append, opening.unwritten, closing.unwritten,
      accomplished.written, List.nil_append, List.append_nil]
  · rw [events_append, events_append, opening.unreported, closing.unreported,
      accomplished.reported, List.nil_append, List.append_nil]

theorem accomplished_nothing {commands : List Command} (quiet : Uneventful trace) :
    Accomplished commands trace (.start commands) [] where
  commands_eq := rfl
  applied_eq := rfl
  within := List.nil_infix
  delivered := List.nil_prefix
  whole _ := quiet.undelivered
  written := quiet.unwritten
  reported := quiet.unreported

theorem Trip.accomplishes {statement : Statement} {commands : List Command} {r : Reconciliation}
    {read : Except Error Unit} (trip : Trip manner statement commands trace r read) :
    ∃ settled, Accomplished commands trace r settled ∧ (read = .ok () → r.pending = []) := by
  have closed : Uneventful [⟨.close, ()⟩] := ⟨rfl, rfl, rfl⟩
  cases trip with
  | unopened failed =>
    have asked := uneventful_perform (by simp) failed
    exact ⟨[], accomplished_nothing (asked.append closed), nofun⟩
  | @unexecuted _ _ settings _ opened failed =>
    have opening := uneventful_perform (by simp) opened
    have prepared := opening.append (statement.preparing_uneventful settings)
    have asked := prepared.append (uneventful_perform (by simp) failed)
    exact ⟨[], accomplished_nothing (asked.append closed), nofun⟩
  | @read _ _ _ settings _ _ opened executed walked =>
    have opening := uneventful_perform (by simp) opened
    have prepared := opening.append (statement.preparing_uneventful settings)
    have asked := prepared.append (uneventful_perform (by simp) executed)
    obtain ⟨settled, walk, complete⟩ := Reconciliation.walkIn_accomplishes walked
    exact ⟨settled, walk.enclose asked closed, complete⟩

/-! ### The whole round trip -/

namespace Reconciliation

/-- A failure is reported by the verdict under which it is handed on. -/
theorem reports_events (r : Reconciliation) (e : Error) :
    events (r.reports e) = (r.classified e).verdict.event?.toList := by
  unfold reports classified Error.isJudged
  cases judged : e.verdict <;> simp only [judged, if_true] <;> rfl

theorem reports_writeBacks (r : Reconciliation) (e : Error) : writeBacks (r.reports e) = [] := by
  unfold reports
  split <;> rfl

theorem reports_deliveries (r : Reconciliation) (e : Error) : deliveries (r.reports e) = [] := by
  unfold reports
  split <;> rfl

theorem classified_isJudged (r : Reconciliation) (e : Error) :
    (r.classified e).isJudged = true := by
  unfold classified
  split
  next judged => exact judged
  next => rfl

end Reconciliation

/-- What metrics are told of the end of a round trip before its span ends. -/
def failuresOf : Except (Abort Error) Executed → List Metrics.Notice
  | .error (.failed e) => e.verdict.event?.toList
  | _ => []

theorem Reconciliation.Concluded.events_eq {r : Reconciliation} {read : Except Error Unit}
    {result : Except (Abort Error) Executed} (concluded : r.Concluded read trace result) :
    events trace = failuresOf result := by
  cases concluded with
  | executed => rfl
  | outOfRange => rfl
  | failed e => exact r.reports_events e

theorem Reconciliation.Concluded.unwritten {r : Reconciliation} {read : Except Error Unit}
    {result : Except (Abort Error) Executed} (concluded : r.Concluded read trace result) :
    writeBacks trace = [] := by
  cases concluded with
  | executed => rfl
  | outOfRange => rfl
  | failed e => exact r.reports_writeBacks e

theorem Reconciliation.Concluded.undelivered {r : Reconciliation} {read : Except Error Unit}
    {result : Except (Abort Error) Executed} (concluded : r.Concluded read trace result) :
    deliveries trace = [] := by
  cases concluded with
  | executed => rfl
  | outOfRange => rfl
  | failed e => exact r.reports_deliveries e

/-- Nothing happens in exchanges that reach neither the reader, nor an entry, nor metrics. -/
theorem uneventful_of_requests {P : Request → Prop} (unread : ∀ call, ¬ P (.store call))
    (unawaited : ∀ call, ¬ P (.await call))
    (unwritten : ∀ entry column value, ¬ P (.writeBack entry column value))
    (unrecorded : ∀ event, ¬ P (.record event)) (asked : ∀ x ∈ trace, P x.request) :
    Uneventful trace where
  undelivered := by
    refine List.filterMap_eq_nil_iff.mpr fun x member => ?_
    have here := asked x member
    obtain ⟨request, answer⟩ := x
    cases request with
    | store call => exact absurd here (unread call)
    | await call => exact absurd here (unawaited call)
    | _ => rfl
  unwritten := by
    refine List.filterMap_eq_nil_iff.mpr fun x member => x.writeBack?_eq_none ?_
    rintro ⟨_, _, _, same⟩
    exact unwritten _ _ _ (same ▸ asked x member)
  unreported := by
    refine events_eq_nil fun x member => ?_
    rintro ⟨_, same⟩
    exact unrecorded _ (same ▸ asked x member)

theorem uneventful_of_dialect (asked : ∀ x ∈ trace, x.request.OfDialect) : Uneventful trace :=
  uneventful_of_requests (fun _ => id) (fun _ => id) (fun _ _ _ => id) (fun _ => id) asked

namespace Batch

/-- What a round trip comes to that settled some commands and left others untouched: all commands
with what became of them, too many rows to count, or a failure under its verdict. -/
inductive SpanEnd (settled : List Settlement) :
    List Command → Except (Abort Error) Executed → Prop
  | executed (inRange : (settled.map (·.applied.rows)).sum < totalBound) :
    SpanEnd settled [] (.ok ⟨settled.map (·.after), settled.map (·.applied.rows)⟩)
  | outOfRange (excess : totalBound ≤ (settled.map (·.applied.rows)).sum) :
    SpanEnd settled [] (.error .totalOutOfRange)
  | failed {untouched : List Command} {e : Error} (judged : e.isJudged = true) :
    SpanEnd settled untouched (.error (.failed e))

/-- In a trace the batch is sent, and its commands are reconciled as far as `r`. -/
inductive Reached (b : Batch) (manner : Manner) (r : Reconciliation) : List Exchange → Prop
  | sent {writing travelled rest : List Exchange} {after : Batch} {statement : Statement}
      {read : Except Error Unit} (written : b.statement.Runs writing (after, .ok statement))
      (trip : Trip manner statement b.commands travelled r read) :
    Reached b manner r
      (writing ++ [⟨.record (.batchStart b.commands.length b.parameterCount), ()⟩] ++
        travelled ++ rest)

/-- How far a round trip got. Just the settled commands have been reconciled by it, with the rows
that its trace delivers, and what these give to the commands is all that is written back. Behind the
settled commands nothing more is delivered, unless commands are left. -/
structure Progress (b : Batch) (manner : Manner) (trace : List Exchange)
    (settled : List Settlement) (untouched : List Command) : Prop where
  commands_eq : b.commands = settled.map (·.before) ++ untouched
  reached : b.Reached manner ⟨settled.map (·.applied), untouched⟩ trace
  within : settled.flatMap (·.exchanges) <:+: trace
  delivered : settled.flatMap (·.row.zipIdx) <+: deliveries trace
  whole : untouched = [] → deliveries trace = settled.flatMap (·.row.zipIdx)
  written : writeBacks trace = settled.flatMap fun s => s.before.writeBacks s.row

/-- The span of metrics of a round trip. It begins with the numbers of commands and parameters, goes
on with each command that is applied, in order, and with the failure if there is one, and ends with
the rows, none after a failure. -/
structure Span (b : Batch) (manner : Manner) (trace : List Exchange)
    (result : Except (Abort Error) Executed) (settled : List Settlement)
    (untouched : List Command) : Prop extends b.Progress manner trace settled untouched where
  reported : events trace = .batchStart b.commands.length b.parameterCount ::
    (settled.map (·.before.application) ++ failuresOf result ++
      [.batchFinish b.commands.length (rowsOf result) ()])
  ends : SpanEnd settled untouched result

theorem SpanEnd.of_concluded {settled : List Settlement} {commands : List Command}
    {r : Reconciliation} {read : Except Error Unit} {result : Except (Abort Error) Executed}
    (accomplished : Accomplished commands trace r settled)
    (complete : read = .ok () → r.pending = []) {concluding : List Exchange}
    (concluded : r.Concluded read concluding result) : SpanEnd settled r.pending result := by
  have commands : r.commands = settled.map (·.after) ++ r.pending := by
    rw [Reconciliation.commands, accomplished.applied_eq, List.map_map]
    rfl
  have rows : r.rowsAffected = settled.map (·.applied.rows) := by
    rw [Reconciliation.rowsAffected, accomplished.applied_eq, List.map_map]
    rfl
  have total : Executed.total ⟨r.commands, r.rowsAffected⟩ =
      (settled.map (·.applied.rows)).sum := by
    rw [Executed.total, rows, List.sum]
  cases concluded with
  | executed inRange =>
    rw [total] at inRange
    rw [commands, rows, complete rfl, List.append_nil]
    exact .executed inRange
  | outOfRange excess =>
    rw [total] at excess
    rw [complete rfl]
    exact .outOfRange (Nat.le_of_not_lt excess)
  | failed e => exact .failed (r.classified_isJudged e)

/-- A round trip gets as far as its use of the connection, whatever is made of the results. -/
theorem Progress.of_trip {b after : Batch} {statement : Statement}
    {writing travelled concluding : List Exchange} {settled : List Settlement} {r : Reconciliation}
    {read : Except Error Unit} {result : Except (Abort Error) Executed}
    (written : b.statement.Runs writing (after, .ok statement))
    (trip : Trip manner statement b.commands travelled r read)
    (accomplished : Accomplished b.commands travelled r settled)
    (concluded : r.Concluded read concluding result) :
    b.Progress manner
      (writing ++ [⟨.record (.batchStart b.commands.length b.parameterCount), ()⟩] ++
        travelled ++ concluding ++
        [⟨.record (.batchFinish b.commands.length (rowsOf result) ()), ()⟩])
      settled r.pending := by
  have opening := uneventful_of_dialect (statement_ofDialect written)
  have started : deliveries [⟨.record (.batchStart b.commands.length b.parameterCount), ()⟩] = [] ∧
      writeBacks [⟨.record (.batchStart b.commands.length b.parameterCount), ()⟩] = [] := ⟨rfl, rfl⟩
  have finished :
      deliveries [⟨.record (.batchFinish b.commands.length (rowsOf result) ()), ()⟩] = [] ∧
      writeBacks [⟨.record (.batchFinish b.commands.length (rowsOf result) ()), ()⟩] = [] :=
    ⟨rfl, rfl⟩
  have deliveries_eq : deliveries (writing ++
      [⟨.record (.batchStart b.commands.length b.parameterCount), ()⟩] ++ travelled ++
        concluding ++ [⟨.record (.batchFinish b.commands.length (rowsOf result) ()), ()⟩]) =
      deliveries travelled := by
    simp only [deliveries_append, opening.undelivered, started, concluded.undelivered, finished,
      List.nil_append, List.append_nil]
  constructor
  · exact accomplished.commands_eq
  · rw [← accomplished.applied_eq, List.append_assoc (_ ++ travelled)]
    exact .sent written trip
  · rw [List.append_assoc (_ ++ travelled)]
    exact accomplished.within.trans ⟨_, _, rfl⟩
  · rw [deliveries_eq]
    exact accomplished.delivered
  · rw [deliveries_eq]
    exact accomplished.whole
  · simp only [writeBacks_append, opening.unwritten, started, accomplished.written,
      concluded.unwritten, finished, List.nil_append, List.append_nil]

/-- A round trip reports what its use of the connection accomplished, between the ends of its
span. -/
theorem Span.of_trip {b after : Batch} {statement : Statement}
    {writing travelled concluding : List Exchange} {settled : List Settlement} {r : Reconciliation}
    {read : Except Error Unit} {result : Except (Abort Error) Executed}
    (written : b.statement.Runs writing (after, .ok statement))
    (trip : Trip manner statement b.commands travelled r read)
    (accomplished : Accomplished b.commands travelled r settled)
    (complete : read = .ok () → r.pending = []) (concluded : r.Concluded read concluding result) :
    b.Span manner (writing ++ [⟨.record (.batchStart b.commands.length b.parameterCount), ()⟩] ++
        travelled ++ concluding ++
        [⟨.record (.batchFinish b.commands.length (rowsOf result) ()), ()⟩])
      result settled r.pending where
  toProgress := .of_trip written trip accomplished concluded
  reported := by
    have opening := uneventful_of_dialect (statement_ofDialect written)
    have started : events [⟨.record (.batchStart b.commands.length b.parameterCount), ()⟩] =
        [.batchStart b.commands.length b.parameterCount] := rfl
    have finished : events [⟨.record (.batchFinish b.commands.length (rowsOf result) ()), ()⟩] =
        [.batchFinish b.commands.length (rowsOf result) ()] := rfl
    simp only [events_append, opening.unreported, started, accomplished.reported,
      concluded.events_eq, finished, List.nil_append, List.cons_append]
  ends := SpanEnd.of_concluded accomplished complete concluded

/-- A batch whose text cannot be written reports nothing; any other has a span of its own. -/
theorem execute_reports {b : Batch} {result : Except (Abort Error) Executed}
    (filled : b.commands ≠ []) (run : (b.execute manner).Runs trace result) :
    (Uneventful trace ∧ ∃ after e, b.statement.Runs trace (after, .error e) ∧
      result = .error (.failed e)) ∨
    ∃ settled untouched, b.Span manner trace result settled untouched := by
  cases execute_dispatches filled run with
  | unwritten failed =>
    exact .inl ⟨uneventful_of_dialect (statement_ofDialect failed), _, _, failed, rfl⟩
  | sent written trip concluded =>
    obtain ⟨settled, accomplished, complete⟩ := trip.accomplishes
    exact .inr ⟨settled, _, .of_trip written trip accomplished complete concluded⟩

end Batch

end BatchedSave
