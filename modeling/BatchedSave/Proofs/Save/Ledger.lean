import Mathlib
import BatchedSave.Proofs.RoundTrip.Reporting
import BatchedSave.Proofs.Save.Course

/-!
# Metrics account for every save

`Ledger` takes the trace of a save apart into the commands that were tried and the round trips that
were made, each as a run of the program that does it, and writes down beside them what metrics are
told: that a batch was full for each command that found no room, and one span for each round trip
whose text could be written. `Books` adds what the spans say to the outcome of the save. Both are
kept by every part of a save, hence by the whole; the main statement is `run_accounts`.
-/
namespace BatchedSave

/-- The exchange draws a command or logs something. -/
def Exchange.Aside (x : Exchange) : Prop :=
  (∃ next, x.request = .pull next) ∨ ∃ entry, x.request = .log entry

/-- What was done in a trace, and the events that metrics were told meanwhile. Spans stand one
behind the other, and outside of them only full batches are reported. -/
inductive Ledger (manner : Manner) : List Exchange → List Metrics.Notice → Prop
  | nothing : Ledger manner [] []
  | aside {x : Exchange} {rest : List Exchange} {es : List Metrics.Notice} (aside : x.Aside)
      (more : Ledger manner rest es) : Ledger manner (x :: rest) es
  /-- A command is added, or the save ends over it. -/
  | tried {b after : Batch} {c : Command} {part rest : List Exchange}
      {result : Except Error Admission} {es : List Metrics.Notice}
      (run : (b.tryAdd c).Runs part (after, result)) (roomy : ∀ c', result ≠ .ok (.full c'))
      (more : Ledger manner rest es) : Ledger manner (part ++ rest) es
  /-- A command finds no room. -/
  | rejected {b after : Batch} {c c' : Command} {part rest : List Exchange}
      {es : List Metrics.Notice} (run : (b.tryAdd c).Runs part (after, .ok (.full c')))
      (more : Ledger manner rest es) :
    Ledger manner (part ++ rest) (.batchFull b.commands.length :: es)
  /-- The text of a batch cannot be written. -/
  | unwritten {b after : Batch} {part rest : List Exchange} {e : Error} {es : List Metrics.Notice}
      (run : (b.execute manner).Runs part (.error (.failed e)))
      (failed : b.statement.Runs part (after, .error e)) (more : Ledger manner rest es) :
    Ledger manner (part ++ rest) es
  /-- A round trip succeeds. -/
  | succeeded {b : Batch} {settled : List Settlement} {part rest : List Exchange}
      {es : List Metrics.Notice} (filled : b.commands ≠ [])
      (run : (b.execute manner).Runs part
        (.ok ⟨settled.map (·.after), settled.map (·.applied.rows)⟩))
      (progress : b.Progress manner part settled []) (more : Ledger manner rest es) :
    Ledger manner (part ++ rest)
      (.batchStart b.commands.length b.parameterCount :: settled.map (·.before.application) ++
        .batchFinish b.commands.length (settled.map (·.applied.rows)).sum () :: es)
  /-- A round trip fails behind the commands that it settled. -/
  | failed {b : Batch} {settled : List Settlement} {untouched : List Command}
      {part rest : List Exchange} {e : Error} {event : Metrics.Notice} {es : List Metrics.Notice}
      (filled : b.commands ≠ []) (run : (b.execute manner).Runs part (.error (.failed e)))
      (progress : b.Progress manner part settled untouched)
      (told : e.verdict.event? = some event) (more : Ledger manner rest es) :
    Ledger manner (part ++ rest)
      (.batchStart b.commands.length b.parameterCount :: settled.map (·.before.application) ++
        event :: .batchFinish b.commands.length 0 () :: es)

namespace Ledger

variable {manner : Manner} {first second trace : List Exchange} {es fs : List Metrics.Notice}

theorem append (here : Ledger manner first es) (there : Ledger manner second fs) :
    Ledger manner (first ++ second) (es ++ fs) := by
  induction here with
  | nothing => exact there
  | aside drawn _ ih => exact .aside drawn ih
  | tried run roomy _ ih =>
    rw [List.append_assoc]
    exact .tried run roomy ih
  | rejected run _ ih =>
    rw [List.append_assoc]
    exact .rejected run ih
  | unwritten run failed _ ih =>
    rw [List.append_assoc]
    exact .unwritten run failed ih
  | succeeded filled run progress _ ih =>
    rw [List.append_assoc, List.append_assoc]
    exact .succeeded filled run progress ih
  | failed filled run progress told _ ih =>
    rw [List.append_assoc, List.append_assoc]
    exact .failed filled run progress told ih

/-- One piece of work. -/
theorem single (piece : Ledger manner (first ++ []) (es ++ [])) : Ledger manner first es := by
  rwa [List.append_nil, List.append_nil] at piece

end Ledger

/-! ### One command and one round trip -/

section Pieces

variable {manner : Manner} {trace : List Exchange}

theorem uneventful_of_limits {α : Type} {p : Program α} {a : α} (asked : p.Asks Request.OfLimits)
    (run : p.Runs trace a) : Uneventful trace :=
  uneventful_of_requests (fun _ => id) (fun _ => id) (fun _ _ _ => id) (fun _ => id)
    (asked.of_mem run)

theorem Batch.Readied.uneventful {b ready : Batch} (readied : b.Readied trace ready) :
    Uneventful trace := by
  cases readied with
  | opened header empty => exact ⟨rfl, rfl, rfl⟩
  | kept filled => exact ⟨rfl, rfl, rfl⟩

/-- Metrics hear of a command that is tried just if it finds no room. -/
theorem Batch.Tried.reports {b after : Batch} {c : Command} {result : Except Error Admission}
    (tried : b.Tried c trace after result) :
    writeBacks trace = [] ∧
      ((events trace = [] ∧ ∀ c', result ≠ .ok (.full c')) ∨
        ∃ c', result = .ok (.full c') ∧ events trace = [.batchFull b.commands.length]) := by
  have looked {opening asked : List Exchange} {ready : Batch} {allowed : Bool}
      (readied : b.Readied opening ready)
      (answered : (b.limits.mayAdd ready.view c).Runs asked allowed) :
      Uneventful (opening ++ asked) :=
    readied.uneventful.append (uneventful_of_limits (b.limits.mayAdd_asks _ _) answered)
  have full {part : List Exchange} {ready : Batch} (quiet : Uneventful part)
      (same : ready.commands = b.commands) : writeBacks (part ++ ready.reportFull) = [] ∧
      events (part ++ ready.reportFull) = [.batchFull b.commands.length] := by
    rw [writeBacks_append, events_append, quiet.unwritten, quiet.unreported, ← same]
    exact ⟨rfl, rfl⟩
  cases tried with
  | refused invalid => exact ⟨rfl, .inl ⟨rfl, nofun⟩⟩
  | declined valid readied answered =>
    obtain ⟨unwritten, told⟩ := full (looked readied answered) readied.commands_eq
    exact ⟨unwritten, .inr ⟨c, rfl, told⟩⟩
  | added valid readied answered accepted =>
    have quiet := (looked readied answered).append
      (uneventful_of_limits (b.limits.accepts_asks _) accepted)
    exact ⟨quiet.unwritten, .inl ⟨quiet.unreported, nofun⟩⟩
  | rejected valid readied answered accepted =>
    have quiet := (looked readied answered).append
      (uneventful_of_limits (b.limits.accepts_asks _) accepted)
    obtain ⟨unwritten, told⟩ := full quiet readied.commands_eq
    exact ⟨unwritten, .inr ⟨c, rfl, told⟩⟩
  | failed valid readied answered accepted =>
    have quiet := (looked readied answered).append
      (uneventful_of_limits (b.limits.accepts_asks _) accepted)
    exact ⟨quiet.unwritten, .inl ⟨quiet.unreported, nofun⟩⟩

theorem ledger_tryAdd {b after : Batch} {c : Command} {result : Except Error Admission}
    (run : (b.tryAdd c).Runs trace (after, result)) : Ledger manner trace (events trace) := by
  obtain ⟨-, ⟨silent, roomy⟩ | ⟨c', rfl, full⟩⟩ := (Batch.tryAdd_runs run).reports
  · rw [silent]
    exact .single (.tried run roomy .nothing)
  · rw [full]
    exact .single (.rejected run .nothing)

theorem ledger_execute {b : Batch} {result : Except (Abort Error) Executed}
    (filled : b.commands ≠ []) (run : (b.execute manner).Runs trace result)
    (inRange : result ≠ .error .totalOutOfRange) : Ledger manner trace (events trace) := by
  rcases Batch.execute_reports filled run with
    ⟨quiet, after, e, failed, rfl⟩ | ⟨settled, untouched, span⟩
  · rw [quiet.unreported]
    exact .single (.unwritten run failed .nothing)
  · have progress := span.toProgress
    have reported := span.reported
    cases span.ends with
    | executed =>
      have total : (settled.map (·.applied.rows)).foldr (· + ·) 0 =
          (settled.map (·.applied.rows)).sum := rfl
      have trip := Ledger.succeeded filled run progress .nothing
      simpa [reported, failuresOf, Batch.rowsOf, Executed.total, total] using trip
    | outOfRange => exact absurd rfl inRange
    | failed judged =>
      obtain ⟨event, told⟩ := Error.exists_event judged
      have trip := Ledger.failed filled run progress told .nothing
      simpa [reported, failuresOf, Batch.rowsOf, told] using trip

end Pieces

/-! ### What the spans add up to -/

/-- Events lead from one outcome to another: each span is a round trip, their ends sum up to the
rows, and what is applied in them are the commands. -/
structure Books (o : SaveOutcome) (es : List Metrics.Notice) (o' : SaveOutcome) : Prop where
  batches : o'.batches = o.batches + es.countP (·.isStart)
  rows : o'.rowsAffected = o.rowsAffected + (es.filterMap (·.finished?)).sum
  commands : o'.commands.map (fun c => (c.table, c.kind)) =
    o.commands.map (fun c => (c.table, c.kind)) ++ es.filterMap (·.applied?)

namespace Books

variable {o o' o'' : SaveOutcome} {es fs : List Metrics.Notice}

theorem silent (o : SaveOutcome) : Books o [] o :=
  ⟨rfl, rfl, (List.append_nil _).symm⟩

theorem full (o : SaveOutcome) (held : Nat) : Books o [.batchFull held] o :=
  ⟨rfl, rfl, (List.append_nil _).symm⟩

theorem trans (here : Books o es o') (there : Books o' fs o'') : Books o (es ++ fs) o'' where
  batches := by rw [there.batches, here.batches, List.countP_append, Nat.add_assoc]
  rows := by
    rw [there.rows, here.rows, List.filterMap_append, List.sum_append, Nat.add_assoc]
  commands := by rw [there.commands, here.commands, List.filterMap_append, List.append_assoc]

/-- A span that succeeds and is added to the outcome. -/
theorem of_span {b : Batch} {manner : Manner} {trace : List Exchange} {executed : Executed}
    {settled : List Settlement} {untouched : List Command}
    (span : b.Span manner trace (.ok executed) settled untouched)
    (absorbed : o.absorb executed = .ok o') : Books o (events trace) o' := by
  obtain ⟨-, rfl⟩ := Save.absorb_ok_iff.mp absorbed
  have starts : (settled.map (·.before.application)).countP (·.isStart) = 0 := by
    simp [Command.application, Metrics.Event.isStart]
  have finishes : (settled.map (·.before.application)).filterMap (·.finished?) = [] := by
    simp [Command.application, Metrics.Event.finished?]
  have applied : (settled.map (·.before.application)).filterMap (·.applied?) =
      settled.map fun s => (s.before.table, s.before.kind) := by
    rw [List.filterMap_map, ← List.filterMap_eq_map]
    rfl
  -- a command keeps its table and kind when it receives its row
  have kept (s : Settlement) : (s.after.table, s.after.kind) = (s.before.table, s.before.kind) := by
    rw [s.received.fields]
  have begun (n p : Nat) : (.batchStart n p : Metrics.Notice).isStart = true ∧
      (.batchStart n p : Metrics.Notice).finished? = none ∧
      (.batchStart n p : Metrics.Notice).applied? = none := ⟨rfl, rfl, rfl⟩
  have finished (n rows : Nat) : (Metrics.Event.batchFinish n rows ()).isStart = false ∧
      (Metrics.Event.batchFinish n rows ()).finished? = some rows ∧
      (Metrics.Event.batchFinish n rows ()).applied? = none := ⟨rfl, rfl, rfl⟩
  have reported := span.reported
  cases span.ends with
  | executed inRange =>
    rw [reported]
    simp only [failuresOf, List.append_nil]
    constructor
    · simp only [List.countP_cons, List.countP_append, List.countP_nil, starts, begun, finished]
      rfl
    · simp only [List.filterMap_cons, List.filterMap_append, List.filterMap_nil, finishes, begun,
        finished, List.nil_append, List.sum_singleton]
      rfl
    · simp only [List.filterMap_cons, List.filterMap_append, List.filterMap_nil, applied, begun,
        finished, List.append_nil, List.map_append, List.map_map]
      exact congrArg _ (List.map_congr_left fun s _ => kept s)

end Books

/-! ### Every part of a save keeps the ledger -/

section Parts

open Program

variable {s : Save} {manner : Manner} {o : SaveOutcome} {α β : Type}

/-- Unless there are too many rows to count, runs of the work keep the ledger, and those that
succeed lead from the outcome `o` to the one their result stands for. -/
def Keeps (manner : Manner) (o : SaveOutcome) (x : Course α) (outcome : α → SaveOutcome) : Prop :=
  ∀ trace result, x.run.Runs trace result → result ≠ .error .totalOutOfRange →
    Ledger manner trace (events trace) ∧ ∀ a, result = .ok a → Books o (events trace) (outcome a)

theorem Keeps.bind {x : Course α} {f : α → Course β} {outcome : α → SaveOutcome}
    {outcome' : β → SaveOutcome} (first : Keeps manner o x outcome)
    (second : ∀ {trace a}, x.run.Runs trace (.ok a) → Keeps manner (outcome a) (f a) outcome') :
    Keeps manner o (x >>= f) outcome' := by
  intro trace result run inRange
  rcases runs_attempt_bind.mp run with ⟨e, rfl, failed⟩ | ⟨before, after, a, rfl, done, rest⟩
  · have early : (Except.error e : Except (Abort Error) α) ≠ .error .totalOutOfRange := by
      rintro ⟨⟩
      exact inRange rfl
    exact ⟨(first _ _ failed early).1, nofun⟩
  · obtain ⟨ledger, books⟩ := first _ _ done nofun
    obtain ⟨ledger', books'⟩ := second done _ _ rest inRange
    rw [events_append]
    exact ⟨ledger.append ledger', fun b same => (books a rfl).trans (books' b same)⟩

theorem keeps_pure {outcome : α → SaveOutcome} {a : α} (same : outcome a = o) :
    Keeps manner o (pure a) outcome := by
  intro trace result run _
  obtain ⟨rfl, rfl⟩ := runs_attempt_pure.mp run
  refine ⟨.nothing, ?_⟩
  rintro _ ⟨⟩
  rw [same]
  exact .silent o

theorem keeps_error {outcome : α → SaveOutcome} (e : Error) :
    Keeps manner o (Course.ofResult (.error e)) outcome := by
  intro trace result run _
  obtain ⟨rfl, rfl⟩ := runs_done_iff.mp run
  exact ⟨.nothing, nofun⟩

theorem keeps_aside {r : Request} (aside : (∃ next, r = .pull next) ∨ ∃ entry, r = .log entry) :
    Keeps manner o (liftM (request r) : Course r.Answer) fun _ => o := by
  intro trace result run _
  obtain ⟨answer, rfl, asked⟩ := runs_lift.mp run
  obtain rfl := runs_request_iff.mp asked
  have silent : events [⟨r, answer⟩] = [] := by
    refine events_eq_nil (List.forall_mem_singleton.mpr ?_)
    rintro ⟨event, same⟩
    rcases aside with ⟨_, rfl⟩ | ⟨_, rfl⟩ <;> cases same
  rw [silent]
  exact ⟨.aside aside .nothing, fun _ _ => .silent o⟩

/-- Within a save a command is tried as on any batch; an error ends the save. -/
theorem tried_of_tryAdd {b : Batch} {c : Command} {trace : List Exchange}
    {result : Except (Abort Error) (Batch × Admission)}
    (run : (Save.tryAdd b c).run.Runs trace result) :
    ∃ after admitted, (b.tryAdd c).Runs trace (after, admitted) ∧
      result = (admitted.mapError .failed).map (after, ·) := by
  obtain ⟨_, _, ⟨after, admitted⟩, rfl, tried, rest⟩ := runs_lift_bind.mp run
  cases admitted with
  | error e =>
    obtain ⟨rfl, rfl⟩ := runs_done_iff.mp rest
    rw [List.append_nil]
    exact ⟨after, _, tried, rfl⟩
  | ok admission =>
    obtain ⟨rfl, rfl⟩ := runs_done_iff.mp rest
    rw [List.append_nil]
    exact ⟨after, _, tried, rfl⟩

theorem keeps_tryAdd (b : Batch) (c : Command) : Keeps manner o (Save.tryAdd b c) fun _ => o := by
  intro trace result run _
  obtain ⟨after, admitted, tried, -⟩ := tried_of_tryAdd run
  refine ⟨ledger_tryAdd tried, fun _ _ => ?_⟩
  obtain ⟨-, ⟨silent, -⟩ | ⟨_, -, full⟩⟩ := (Batch.tryAdd_runs tried).reports
  · rw [silent]
    exact .silent o
  · rw [full]
    exact .full o _

/-- A batch to which a command has been added holds one. -/
theorem filled_of_added {b after : Batch} {c : Command} {trace : List Exchange}
    (run : (Save.tryAdd b c).run.Runs trace (.ok (after, .added))) : after.commands ≠ [] := by
  obtain ⟨_, admitted, tried, same⟩ := tried_of_tryAdd run
  cases admitted with
  | error e => cases same
  | ok admission =>
    cases same
    cases Batch.tryAdd_runs tried with
    | added => exact List.append_ne_nil_of_right_ne_nil _ (List.cons_ne_nil _ _)

/-- A round trip is a span, and what it is added to moves on by what the span says. -/
theorem keeps_sendWhole {b : Batch} (filled : b.commands ≠ []) :
    Keeps manner o (Save.sendWhole manner b o) id := by
  intro trace result run inRange
  rcases runs_attempt_bind.mp run with ⟨abort, rfl, failed⟩ | ⟨_, _, executed, rfl, sent, rest⟩
  · have early :
        (Except.error abort : Except (Abort Error) Executed) ≠ .error .totalOutOfRange := by
      rintro ⟨⟩
      exact inRange rfl
    exact ⟨ledger_execute filled failed early, nofun⟩
  obtain ⟨rfl, rfl⟩ : _ = [] ∧ result = o.absorb executed := by
    cases absorbed : o.absorb executed <;> rw [absorbed] at rest <;> exact runs_done_iff.mp rest
  rw [List.append_nil]
  refine ⟨ledger_execute filled sent nofun, fun o' absorbed => ?_⟩
  rcases Batch.execute_reports filled sent with ⟨-, _, _, -, ⟨⟩⟩ | ⟨settled, untouched, span⟩
  exact .of_span span absorbed

theorem keeps_sendSingle (c : Command) : Keeps manner o (s.sendSingle manner o c) id := by
  refine (keeps_tryAdd _ c).bind ?_
  intro trace a tried
  obtain ⟨single, admission⟩ := a
  cases admission with
  | added => exact keeps_sendWhole (filled_of_added tried)
  | full _ => exact keeps_error _

theorem keeps_send {b : Batch} (filled : b.commands ≠ []) :
    Keeps manner o (s.send manner b o) id := by
  have singles (commands : List Command) (o : SaveOutcome) :
      Keeps manner o (commands.foldlM (s.sendSingle manner) o) id := by
    induction commands generalizing o with
    | nil => exact keeps_pure rfl
    | cons c rest ih => exact (keeps_sendSingle c).bind fun _ => ih _
  refine (keeps_aside (.inr ⟨_, rfl⟩)).bind fun _ => ?_
  split
  · exact singles b.commands o
  · exact keeps_sendWhole filled

theorem keeps_startBatch (c : Command) : Keeps manner o (s.startBatch c) fun _ => o := by
  refine (keeps_tryAdd _ c).bind fun {_} {a} _ => ?_
  obtain ⟨b, admission⟩ := a
  cases admission with
  | added => exact keeps_pure rfl
  | full _ => exact keeps_error _

/-- Filling a batch keeps the ledger. The induction is on the commands still to be drawn. -/
theorem keeps_fill (b : Batch) (commands : List Command) :
    Keeps manner o (s.fill manner o b commands) id := by
  induction commands generalizing o b with
  | nil =>
    refine (keeps_aside (.inl ⟨_, rfl⟩)).bind fun _ => ?_
    split
    next => exact keeps_pure rfl
    next filled => exact keeps_send fun none => filled (List.isEmpty_iff.mpr none)
  | cons c rest ih =>
    refine (keeps_aside (.inl ⟨_, rfl⟩)).bind fun _ => ?_
    refine (keeps_tryAdd b c).bind fun {_} {a} _ => ?_
    obtain ⟨b, admission⟩ := a
    cases admission with
    | added => exact ih b
    | full c =>
      dsimp only
      split
      next => exact keeps_error _
      next filled =>
        have filled : b.commands ≠ [] := fun none => filled (List.isEmpty_iff.mpr none)
        exact (keeps_send filled).bind fun _ => (keeps_startBatch c).bind fun _ => ih _

end Parts

/-! ### Generated values -/

/-- A command is settled with one value written back for each of its read columns. -/
theorem Settlement.length_writeBacks (s : Settlement) :
    (s.before.writeBacks s.row).length = s.before.readCount := by
  have width := s.width
  unfold ResultShape.ofCommand at width
  rw [Command.writeBacks, List.length_map, List.length_zip, ← Command.readCount]
  split at width
  next none => omega
  next => simp only [ResultShape.fieldCount] at width; omega

theorem sum_generatedValues (settled : List Settlement) :
    ((settled.map (·.before.application)).map (·.generatedValues)).sum =
      (settled.flatMap fun s => s.before.writeBacks s.row).length := by
  rw [List.length_flatMap, List.map_map]
  congr 1
  exact List.map_congr_left fun s _ => s.length_writeBacks.symm

/-- Each value that is written back is counted once. -/
theorem Ledger.generatedValues {manner : Manner} {trace : List Exchange} {es : List Metrics.Notice}
    (ledger : Ledger manner trace es) :
    (es.map (·.generatedValues)).sum = (writeBacks trace).length := by
  have begun (n p : Nat) : (.batchStart n p : Metrics.Notice).generatedValues = 0 := rfl
  have finished (n rows : Nat) : (Metrics.Event.batchFinish n rows ()).generatedValues = 0 := rfl
  have failure {e : Error} {event : Metrics.Notice} (told : e.verdict.event? = some event) :
      event.generatedValues = 0 := by
    have fails := Verdict.event?_isFailure told
    cases event <;> first | rfl | cases fails
  induction ledger with
  | nothing => rfl
  | @aside x rest es aside _ ih =>
    have unwritten : x.writeBack? = none := by
      refine x.writeBack?_eq_none ?_
      rintro ⟨_, _, _, same⟩
      rcases aside with ⟨_, drawn⟩ | ⟨_, logged⟩
      · rw [same] at drawn
        cases drawn
      · rw [same] at logged
        cases logged
    have skipped : writeBacks (x :: rest) = writeBacks rest := List.filterMap_cons_none unwritten
    rw [ih, skipped]
  | tried run _ _ ih =>
    rw [writeBacks_append, (Batch.tryAdd_runs run).reports.1, List.nil_append]
    exact ih
  | rejected run _ ih =>
    rw [writeBacks_append, (Batch.tryAdd_runs run).reports.1, List.nil_append, List.map_cons,
      List.sum_cons, ih]
    exact Nat.zero_add _
  | unwritten _ failed _ ih =>
    have quiet := uneventful_of_dialect (Batch.statement_ofDialect failed)
    rw [writeBacks_append, quiet.unwritten, List.nil_append]
    exact ih
  | succeeded _ _ progress _ ih =>
    simp only [List.cons_append, List.map_cons, List.map_append, List.sum_cons, List.sum_append,
      sum_generatedValues, begun, finished, ih, writeBacks_append, progress.written,
      List.length_append]
    omega
  | failed _ _ progress told _ ih =>
    simp only [List.cons_append, List.map_cons, List.map_append, List.sum_cons, List.sum_append,
      sum_generatedValues, begun, finished, failure told, ih, writeBacks_append, progress.written,
      List.length_append]
    omega

namespace Save

variable {s : Save} {manner : Manner} {trace : List Exchange} {commands : List Command}

/-- Metrics account for every save whose rows can be counted. Its trace is taken apart into the
commands that were tried and the round trips that were made, and beside them stands exactly what
metrics were told: a full batch for each command that found no room, and for each round trip whose
text could be written one span with the commands applied in it, in order, and its failure if it
failed. The generated values of the commands are as many as were written back. If the save succeeds
the spans are its round trips, the rows at their ends sum up to its rows, and the commands applied
are its commands. -/
theorem run_accounts {result : Except (Abort Error) SaveOutcome}
    (inRange : result ≠ .error .totalOutOfRange)
    (run : (s.run manner commands).Runs trace result) :
    Ledger manner trace (events trace) ∧
      ((events trace).map (·.generatedValues)).sum = (writeBacks trace).length ∧
      ∀ o, result = .ok o →
        (events trace).countP (·.isStart) = o.batches ∧
        ((events trace).filterMap (·.finished?)).sum = o.rowsAffected ∧
        (events trace).filterMap (·.applied?) = o.commands.map fun c => (c.table, c.kind) := by
  obtain ⟨ledger, books⟩ := keeps_fill s.emptyBatch commands trace result run inRange
  refine ⟨ledger, ledger.generatedValues, ?_⟩
  rintro o rfl
  have adds := books o rfl
  have batches := adds.batches
  have rows := adds.rows
  have applied := adds.commands
  rw [Nat.zero_add] at batches rows
  rw [List.map_nil, List.nil_append] at applied
  exact ⟨batches.symm, rows.symm, applied.symm⟩

/-- The second of two inserts finds no room behind the first one and is sent on its own. -/
theorem run_accounts_for_two_inserts :
    let save : Save := { limits := .caps 1 9 }
    let inserts := [Command.identityInsert 0, .identityInsert 1]
    let store : ScriptedStore := { responses := [.ok [[[.int 7]]], .ok [[[.int 9]]]] }
    let played := (save.run .suspending inserts).play
      (Surroundings.scripted (Dialect.plain atPlaceholder)) store
    played.result ≠ .error .totalOutOfRange ∧
      events played.journal =
        [.batchFull 1, .batchStart 1 0, .commandApplied "users" .insert 1, .batchFinish 1 1 (),
         .batchStart 1 0, .commandApplied "users" .insert 1, .batchFinish 1 1 ()] ∧
      Ledger .suspending played.journal (events played.journal) ∧
      ((events played.journal).map (·.generatedValues)).sum =
        (writeBacks played.journal).length ∧
      ∀ o, played.result = .ok o →
        (events played.journal).countP (·.isStart) = o.batches ∧
        ((events played.journal).filterMap (·.finished?)).sum = o.rowsAffected ∧
        (events played.journal).filterMap (·.applied?) =
          o.commands.map fun c => (c.table, c.kind) := by
  intro save inserts store played
  have run : (save.run .suspending inserts).Runs played.journal played.result :=
    Program.runs_play _ _ _
  have counted : played.result.isOk = true := by cbv
  have inRange : played.result ≠ .error .totalOutOfRange := by
    intro same
    rw [same] at counted
    cases counted
  exact ⟨inRange, by cbv, run_accounts inRange run⟩

end Save

end BatchedSave
