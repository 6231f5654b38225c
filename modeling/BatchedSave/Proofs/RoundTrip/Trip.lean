import BatchedSave.Proofs.Batch.History
import BatchedSave.Proofs.Reconciliation.Rejection

/-!
# How a round trip goes

What sending one batch can come to, said once for each of its endings: `Trip` for the use of the
connection, `Concluded` for what is made of the results, and `Posted` for the whole. A batch that is
sent has not been rendered before, so its text is its header, the fragments of its commands and a
footer that is asked for last.
-/
namespace BatchedSave

variable {manner : Manner} {trace : List Exchange}

/-! ### The use of the connection -/

/-- The use of a connection ends in its being closed, whatever came of the use. -/
theorem Manner.connected_runs {α : Type} {use : Attempt α} {result : Except Error α}
    (run : (manner.connected use).Runs trace result) :
    ∃ inside, trace = inside ++ [⟨.close, ()⟩] ∧
      (manner.perform .connection .connect >>= fun _ => use).run.Runs inside result := by
  obtain ⟨used, _, outcome, rfl, ran, rest⟩ := Program.runs_bind.mp run
  obtain ⟨_, _, rfl, done⟩ := Program.runs_request_bind.mp rest
  obtain ⟨rfl, rfl⟩ := Program.runs_done_iff.mp done
  exact ⟨used, rfl, ran⟩

namespace Statement

/-- The exchanges that bind a statement to the settings of the open connection. -/
def preparing (s : Statement) (settings : Settings) : List Exchange :=
  [⟨.settings, settings⟩, ⟨.log (.executingCommand s.sensitive (s.bind settings)), ()⟩]

theorem command_runs {s : Statement} {result : Except Error StoreCommand}
    (run : s.command.run.Runs trace result) :
    ∃ settings, trace = s.preparing settings ∧ result = .ok (s.bind settings) := by
  obtain ⟨_, _, settings, rfl, asked, rest⟩ := Program.runs_lift_bind.mp run
  obtain rfl := Program.runs_request_iff.mp asked
  obtain ⟨command, rfl, prepared⟩ := Program.runs_lift.mp rest
  obtain ⟨_, _, rfl, done⟩ := Program.runs_request_bind.mp prepared
  obtain ⟨rfl, rfl⟩ := Program.runs_done_iff.mp done
  exact ⟨settings, rfl, rfl⟩

end Statement

/-- How a connection is used for a statement with its commands, and how far these were reconciled:
it did not open, the statement was not executed, or the results were walked. -/
inductive Trip (manner : Manner) (statement : Statement) (commands : List Command) :
    List Exchange → Reconciliation → Except Error Unit → Prop
  | unopened {opening : List Exchange} {e : Error}
      (failed : (manner.perform .connection .connect).run.Runs opening (.error e)) :
    Trip manner statement commands (opening ++ [⟨.close, ()⟩]) (.start commands) (.error e)
  | unexecuted {opening asking : List Exchange} {settings : Settings} {e : Error}
      (opened : (manner.perform .connection .connect).run.Runs opening (.ok ()))
      (failed : (manner.perform .store (.query (statement.bind settings))).run.Runs asking
        (.error e)) :
    Trip manner statement commands
      (opening ++ statement.preparing settings ++ asking ++ [⟨.close, ()⟩])
      (.start commands) (.error e)
  | read {opening asking reading : List Exchange} {settings : Settings} {r : Reconciliation}
      {result : Except Error Unit}
      (opened : (manner.perform .connection .connect).run.Runs opening (.ok ()))
      (executed : (manner.perform .store (.query (statement.bind settings))).run.Runs asking
        (.ok ()))
      (walked : (Reconciliation.walkIn manner [] commands).Runs reading (r, result)) :
    Trip manner statement commands
      (opening ++ statement.preparing settings ++ asking ++ reading ++ [⟨.close, ()⟩]) r result

/-- Reading the results of a statement for its commands is a trip. -/
theorem Statement.reading_runs {s : Statement} {commands : List Command}
    {outcome : Except Error (Reconciliation × Except (Abort Error) Unit)}
    (run : (s.reading manner ((Reconciliation.start commands).consumeIn manner)).Runs trace
      outcome) :
    (∃ e, outcome = .error e ∧ Trip manner s commands trace (.start commands) (.error e)) ∨
      ∃ r result, outcome = .ok (r, result.mapError .failed) ∧
        Trip manner s commands trace r result := by
  obtain ⟨_, rfl, ran⟩ := Manner.connected_runs run
  rcases Program.runs_attempt_bind.mp ran with ⟨e, rfl, failed⟩ | ⟨opening, _, _, rfl, opened, rest⟩
  · exact .inl ⟨e, rfl, .unopened failed⟩
  rcases Program.runs_attempt_bind.mp rest with ⟨_, -, failed⟩ | ⟨_, _, _, rfl, bound, rest⟩
  · obtain ⟨_, -, ⟨⟩⟩ := command_runs failed
  obtain ⟨settings, rfl, same⟩ := command_runs bound
  cases same
  rcases Program.runs_attempt_bind.mp rest with ⟨e, rfl, failed⟩ | ⟨asking, _, _, rfl, asked, rest⟩
  · rw [← List.append_assoc]
    exact .inl ⟨e, rfl, .unexecuted opened failed⟩
  obtain ⟨read, rfl, consumed⟩ := Program.runs_lift.mp rest
  rw [Reconciliation.consumeIn_start] at consumed
  obtain ⟨⟨r, result⟩, rfl, walked⟩ := Program.runs_map.mp consumed
  simp only [← List.append_assoc]
  exact .inr ⟨r, result, rfl, .read opened asked walked⟩

/-- A request to the dialect. -/
def Request.OfDialect : Request → Prop
  | .header | .footer | .fragment _ => True
  | _ => False

theorem Script.Fragmented.ofDialect {commands : List Command} {result : Except Error String}
    (fragments : Fragmented commands trace result) : ∀ x ∈ trace, x.request.OfDialect := by
  induction fragments with
  | nil => simp
  | failed junk e => exact List.forall_mem_singleton.mpr trivial
  | cons text _ ih => exact List.forall_mem_cons.mpr ⟨trivial, ih⟩

/-- No exchange of the trace is with the dialect. -/
def Wordless (trace : List Exchange) : Prop :=
  ∀ x ∈ trace, ¬ x.request.OfDialect

theorem wordless_nil : Wordless [] :=
  fun _ member => nomatch member

theorem wordless_cons {x : Exchange} (here : ¬ x.request.OfDialect) (rest : Wordless trace) :
    Wordless (x :: trace) :=
  List.forall_mem_cons.mpr ⟨here, rest⟩

theorem Wordless.append {first second : List Exchange} (here : Wordless first)
    (there : Wordless second) : Wordless (first ++ second) :=
  List.forall_mem_append.mpr ⟨here, there⟩

theorem wordless_perform {origin : Origin} {call : StoreCall} {result : Except Error call.Result}
    (run : (manner.perform origin call).run.Runs trace result) : Wordless trace := by
  have asked : (manner.perform origin call).run.Asks fun r => ¬ r.OfDialect :=
    Program.asks_perform manner origin call id id id
  exact asked.of_mem run

theorem Request.IsEffect.not_ofDialect {r : Request} (isEffect : r.IsEffect) : ¬ r.OfDialect := by
  intro ofDialect
  cases r with
  | writeBack entry column value => exact ofDialect
  | record event => exact ofDialect
  | _ => exact isEffect

theorem Reconciliation.wordless_account :
    Account manner fun trace _ => Wordless trace where
  nothing := wordless_nil
  append := Wordless.append
  called _ _ _ run := wordless_perform run
  counted _ := wordless_cons id wordless_nil
  effect _ isEffect := wordless_cons isEffect.not_ofDialect wordless_nil
  rejected _ := wordless_nil

theorem Statement.preparing_wordless (s : Statement) (settings : Settings) :
    Wordless (s.preparing settings) :=
  wordless_cons id (wordless_cons id wordless_nil)

/-- A trip asks the dialect for nothing. -/
theorem Trip.wordless {statement : Statement} {commands : List Command} {r : Reconciliation}
    {read : Except Error Unit} (trip : Trip manner statement commands trace r read) :
    Wordless trace := by
  have closed : Wordless [⟨.close, ()⟩] := wordless_cons id wordless_nil
  cases trip with
  | unopened failed => exact (wordless_perform failed).append closed
  | @unexecuted _ _ settings _ opened failed =>
    have prepared := (wordless_perform opened).append (statement.preparing_wordless settings)
    exact (prepared.append (wordless_perform failed)).append closed
  | @read _ _ _ settings _ _ opened executed walked =>
    have prepared := (wordless_perform opened).append (statement.preparing_wordless settings)
    have executed := prepared.append (wordless_perform executed)
    exact (executed.append (Reconciliation.wordless_account.walk walked)).append closed

/-! ### What is made of the results -/

namespace Reconciliation

/-- A failure as it is handed on: one without a verdict becomes a store failure. -/
def classified (r : Reconciliation) (e : Error) : Error :=
  if e.isJudged then e else .storeFailure r.suspect e

/-- How a failure is reported before it is handed on. -/
def reports (r : Reconciliation) (e : Error) : List Exchange :=
  match e.verdict with
  | .conflict command _ _ => [⟨.log (.conflict e), ()⟩, ⟨.record (.conflict command.table), ()⟩]
  | .violation _ _ => [⟨.log (.violation e), ()⟩, ⟨.record .violation, ()⟩]
  | .cancelled => [⟨.log (.batchCancelled r.commands.length), ()⟩, ⟨.record .cancelled, ()⟩]
  | .storeFailure _ _ => [⟨.record .storeFailure, ()⟩]
  | .unclassified => [⟨.log (.storeFailed e r.suspect), ()⟩, ⟨.record .storeFailure, ()⟩]

theorem classify_runs {r : Reconciliation} {e result : Error}
    (run : (r.classify e).Runs trace result) : trace = r.reports e ∧ result = r.classified e := by
  unfold classify at run
  unfold reports classified Error.isJudged
  split at run <;> rename_i judged <;> simp only [judged]
  case h_4 =>
    obtain ⟨_, _, rfl, done⟩ := Program.runs_request_bind.mp run
    obtain ⟨rfl, rfl⟩ := Program.runs_done_iff.mp done
    exact ⟨rfl, rfl⟩
  all_goals
    obtain ⟨_, _, rfl, rest⟩ := Program.runs_request_bind.mp run
    obtain ⟨_, _, rfl, done⟩ := Program.runs_request_bind.mp rest
    obtain ⟨rfl, rfl⟩ := Program.runs_done_iff.mp done
    exact ⟨rfl, rfl⟩

/-- What becomes of a batch whose results were reconciled as far as `r`. -/
inductive Concluded (r : Reconciliation) :
    Except Error Unit → List Exchange → Except (Abort Error) Executed → Prop
  | executed (inRange : (Executed.mk r.commands r.rowsAffected).total < totalBound) :
    Concluded r (.ok ()) [] (.ok ⟨r.commands, r.rowsAffected⟩)
  | outOfRange (excess : ¬ (Executed.mk r.commands r.rowsAffected).total < totalBound) :
    Concluded r (.ok ()) [] (.error .totalOutOfRange)
  | failed (e : Error) : Concluded r (.error e) (r.reports e) (.error (.failed (r.classified e)))

theorem reports_wordless (r : Reconciliation) (e : Error) : Wordless (r.reports e) := by
  unfold reports
  split
  case h_4 => exact wordless_cons id wordless_nil
  all_goals exact wordless_cons id (wordless_cons id wordless_nil)

theorem Concluded.wordless {r : Reconciliation} {read : Except Error Unit}
    {result : Except (Abort Error) Executed} (concluded : r.Concluded read trace result) :
    Wordless trace := by
  cases concluded with
  | executed => exact wordless_nil
  | outOfRange => exact wordless_nil
  | failed e => exact r.reports_wordless e

theorem conclude_runs {r : Reconciliation} {read : Except Error Unit}
    {result : Except (Abort Error) Executed}
    (run : (r.conclude (read.mapError .failed)).Runs trace result) :
    r.Concluded read trace result := by
  rcases read with e | ⟨⟨⟩⟩
  · obtain ⟨_, _, judged, rfl, classified, done⟩ := Program.runs_bind.mp run
    obtain ⟨rfl, rfl⟩ := classify_runs classified
    obtain ⟨rfl, rfl⟩ := Program.runs_done_iff.mp done
    rw [List.append_nil]
    exact .failed e
  · have whole : (Except.ok () : Except Error Unit).mapError Abort.failed = .ok () := rfl
    simp only [whole, conclude] at run
    split at run
    next inRange =>
      obtain ⟨rfl, rfl⟩ := Program.runs_done_iff.mp run
      exact .executed inRange
    next excess =>
      obtain ⟨rfl, rfl⟩ := Program.runs_done_iff.mp run
      exact .outOfRange excess

end Reconciliation

/-! ### The whole round trip -/

namespace Batch

/-- The statement of the whole batch under a text. -/
def statementOf (b : Batch) (text : String) : Statement :=
  { text
    parameters := b.parameters
    sensitive := b.options.sensitive
    timeout := b.options.timeout }

/-- The rows a round trip is reported to have affected. -/
def rowsOf : Except (Abort Error) Executed → Nat
  | .ok executed => executed.total
  | .error _ => 0

/-- How a batch with commands is sent: its statement cannot be made and nothing else is done, or the
trip is made with the statement and concluded. -/
inductive Dispatched (b : Batch) (manner : Manner) :
    List Exchange → Except (Abort Error) Executed → Prop
  | unwritten {writing : List Exchange} {after : Batch} {e : Error}
      (failed : b.statement.Runs writing (after, .error e)) :
    Dispatched b manner writing (.error (.failed e))
  | sent {writing travelled concluding : List Exchange} {after : Batch} {statement : Statement}
      {r : Reconciliation} {read : Except Error Unit} {result : Except (Abort Error) Executed}
      (written : b.statement.Runs writing (after, .ok statement))
      (trip : Trip manner statement b.commands travelled r read)
      (concluded : r.Concluded read concluding result) :
    Dispatched b manner
      (writing ++ [⟨.record (.batchStart b.commands.length b.parameterCount), ()⟩] ++
        travelled ++ concluding ++
        [⟨.record (.batchFinish b.commands.length (rowsOf result) ()), ()⟩])
      result

/-- Making the statement of a batch leaves its commands alone. -/
theorem statement_keeps {b after : Batch} {result : Except Error Statement}
    (run : b.statement.Runs trace (after, result)) :
    after.commands = b.commands ∧ after.parameterCount = b.parameterCount ∧
      ∀ statement, result = .ok statement → ∃ text, statement = b.statementOf text := by
  obtain ⟨_, _, ⟨_, text⟩, rfl, ran, done⟩ := Program.runs_bind.mp run
  obtain ⟨rfl, same⟩ := Program.runs_done_iff.mp done
  cases same
  obtain ⟨script, rfl⟩ : ∃ script, after = { b with script } := by
    rcases finalize_runs ran with ⟨-, -, rfl, -⟩ | ⟨-, script, rfl, -⟩
    · exact ⟨after.script, rfl⟩
    · exact ⟨script, rfl⟩
  refine ⟨rfl, rfl, fun statement made => ?_⟩
  cases text with
  | error e => cases made
  | ok text =>
    cases made
    exact ⟨text, rfl⟩

/-- Sending a batch, whatever has been rendered of it. -/
theorem execute_dispatches {b : Batch} {result : Except (Abort Error) Executed}
    (filled : b.commands ≠ []) (run : (b.execute manner).Runs trace result) :
    b.Dispatched manner trace result := by
  rw [execute, if_neg (by simpa using filled)] at run
  obtain ⟨writing, _, ⟨after, made⟩, rfl, written, rest⟩ := Program.runs_bind.mp run
  obtain ⟨commands, parameters, -⟩ := statement_keeps written
  cases made with
  | error e =>
    obtain ⟨rfl, rfl⟩ := Program.runs_done_iff.mp rest
    rw [List.append_nil]
    exact .unwritten written
  | ok statement =>
    dsimp only at rest
    rw [commands, parameters] at rest
    obtain ⟨_, _, rfl, counted⟩ := Program.runs_request_bind.mp rest
    obtain ⟨travelled, _, outcome, rfl, read, closing⟩ := Program.runs_bind.mp counted
    -- whatever reading came to, the same is done with the results
    have concludes (r : Reconciliation) (read : Except Error Unit)
        (trip : Trip manner statement b.commands travelled r read) {closing : List Exchange}
        (closed : (r.conclude (read.mapError .failed) >>= fun result => do
            Program.request (.record (.batchFinish b.commands.length (rowsOf result) ()))
            return result).Runs closing result) :
        b.Dispatched manner (writing ++
          ⟨.record (.batchStart b.commands.length b.parameterCount), ()⟩ ::
            (travelled ++ closing)) result := by
      obtain ⟨concluding, _, concluded, rfl, judged, finished⟩ := Program.runs_bind.mp closed
      obtain ⟨_, _, rfl, done⟩ := Program.runs_request_bind.mp finished
      obtain ⟨rfl, rfl⟩ := Program.runs_done_iff.mp done
      simpa using Dispatched.sent written trip (Reconciliation.conclude_runs judged)
    rcases Statement.reading_runs read with ⟨e, rfl, trip⟩ | ⟨r, outcome, rfl, trip⟩
    · exact concludes _ (.error e) trip closing
    · exact concludes r outcome trip closing

/-- How a batch is sent whose commands have not been rendered: a fragment fails and nothing else is
done, or the trip is made under the complete text and concluded. -/
inductive Posted (b : Batch) (manner : Manner) :
    List Exchange → Except (Abort Error) Executed → Prop
  | unwritten {asked : List Exchange} {e : Error}
      (failed : Script.Fragmented b.commands asked (.error e)) :
    Posted b manner asked (.error (.failed e))
  | sent {asked travelled concluding : List Exchange} {added footer : String}
      {r : Reconciliation} {read : Except Error Unit} {result : Except (Abort Error) Executed}
      (written : Script.Fragmented b.commands asked (.ok added))
      (trip : Trip manner (b.statementOf (b.script.text ++ added ++ footer)) b.commands
        travelled r read)
      (concluded : r.Concluded read concluding result) :
    Posted b manner
      (asked ++ [⟨.footer, footer⟩,
          ⟨.record (.batchStart b.commands.length b.parameterCount), ()⟩] ++
        travelled ++ concluding ++
        [⟨.record (.batchFinish b.commands.length (rowsOf result) ()), ()⟩])
      result

/-- The text of a batch that has not been rendered consists of its header, the fragments of its
commands and a footer. -/
theorem statement_runs {b after : Batch} {header : String} {result : Except Error Statement}
    (unrendered : b.script = { text := header }) (filled : b.commands ≠ [])
    (run : b.statement.Runs trace (after, result)) :
    (∃ e, result = .error e ∧ Script.Fragmented b.commands trace (.error e)) ∨
      ∃ asked added footer, trace = asked ++ [⟨.footer, footer⟩] ∧
        Script.Fragmented b.commands asked (.ok added) ∧
        result = .ok (b.statementOf (header ++ added ++ footer)) := by
  obtain ⟨_, _, ⟨_, text⟩, rfl, finalized, done⟩ := Program.runs_bind.mp run
  obtain ⟨rfl, same⟩ := Program.runs_done_iff.mp done
  cases same
  rw [List.append_nil]
  rcases finalize_runs finalized with ⟨empty, -⟩ | ⟨-, script, rfl, rendered⟩
  · exact absurd empty filled
  rw [unrendered] at rendered
  cases rendered with
  | complete _ closed => cases closed
  | failed fragments => exact .inl ⟨_, rfl, fragments⟩
  | @extended asked closing added footer _ fragments closed =>
    -- a script without a footer asks for one
    obtain rfl := Program.runs_request_iff.mp closed
    exact .inr ⟨asked, added, footer, rfl, fragments, rfl⟩

/-- Sending a batch that has not been rendered. -/
theorem execute_runs {b : Batch} {header : String} {result : Except (Abort Error) Executed}
    (unrendered : b.script = { text := header }) (filled : b.commands ≠ [])
    (run : (b.execute manner).Runs trace result) : b.Posted manner trace result := by
  cases execute_dispatches filled run with
  | unwritten failed =>
    rcases statement_runs unrendered filled failed with ⟨e, same, fragments⟩ | ⟨_, _, _, -, -, ⟨⟩⟩
    cases same
    exact .unwritten fragments
  | sent written trip concluded =>
    rcases statement_runs unrendered filled written with
      ⟨_, ⟨⟩, -⟩ | ⟨asked, added, footer, rfl, fragments, same⟩
    cases same
    have text : header = b.script.text := by rw [unrendered]
    rw [text] at trip
    simpa using Posted.sent fragments trip concluded

end Batch

end BatchedSave
