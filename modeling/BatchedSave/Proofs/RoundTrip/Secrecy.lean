import BatchedSave.Proofs.Reconciliation.Secrecy

/-!
# Round trips keep values to themselves

Two round trips with batches that differ in the values of columns only are twins: they write the
same text, bind parameters that differ in their values only, read the results alike and reach the
same verdict. They are so as long as the statement's values may not be logged.
-/
namespace BatchedSave

open Program

variable {k : Reading}

def Executed.masked (e : Executed) : Executed :=
  { e with commands := e.commands.map (·.masked) }

def Batch.masked (b : Batch) : Batch :=
  { b with commands := b.commands.map (·.masked) }

/-! ### Verdicts -/

namespace Reconciliation

variable {r r' : Reconciliation}

theorem masked_commands (r : Reconciliation) :
    r.commands.map (·.masked) = r.masked.commands := by
  simp only [commands, masked, List.map_append, List.map_map]
  rfl

theorem rowsAffected_congr (same : r.masked = r'.masked) : r.rowsAffected = r'.rowsAffected := by
  have rows (r : Reconciliation) : r.masked.rowsAffected = r.rowsAffected := by
    simp only [rowsAffected, masked, List.map_map]
    rfl
  rw [← rows, same, rows]

theorem commands_congr (same : r.masked = r'.masked) :
    r.commands.map (·.masked) = r'.commands.map (·.masked) := by
  rw [masked_commands, same, masked_commands]

theorem suspect_congr (same : r.masked = r'.masked) : r.suspect = r'.suspect := by
  have suspect (r : Reconciliation) : r.masked.suspect = r.suspect := by
    obtain ⟨applied, pending⟩ := r
    cases pending with
    | nil =>
      simp only [Reconciliation.suspect, masked, commands, List.map_nil, List.append_nil,
        List.map_map, List.head?_map, Option.map_map]
      rfl
    | cons c rest =>
      simp only [Reconciliation.suspect, masked, position, List.map_cons, List.length_map,
        Command.masked_ref]
  rw [← suspect, same, suspect]

theorem classify_congr (same : r.masked = r'.masked) (e : Error) :
    r.classify e = r'.classify e := by
  have count : r.commands.length = r'.commands.length := by
    simpa only [List.length_map] using congrArg List.length (commands_congr same)
  unfold classify
  rw [suspect_congr same, count]

theorem classify_twins (r : Reconciliation) (e : Error) :
    Twins (fun _ reported reported' => reported = reported') k (r.classify e) (r.classify e) := by
  have counted (event : Metrics.Notice) (reported : Error) :
      Twins (fun _ e e' => e = e') k (do Program.request (.record event); return reported)
        (do Program.request (.record event); return reported) :=
    (twins_record rfl).bind fun _ _ _ _ => .done rfl
  have logged (entry : Log.Entry) (event : Metrics.Notice) (reported : Error) :
      Twins (fun _ e e' => e = e') k
        (do Program.request (.log entry); Program.request (.record event); return reported)
        (do Program.request (.log entry); Program.request (.record event); return reported) :=
    (twins_log rfl).bind fun _ _ _ kept => by
      subst kept
      exact counted event reported
  unfold classify
  cases e.verdict with
  | storeFailure => exact counted _ _
  | _ => exact logged _ _ _

theorem conclude_twins (same : r.masked = r'.masked) {result : Except (Abort Error) Unit}
    (fresh : result = .ok () → k.written = []) :
    Twins (Agree fun k' executed executed' => k'.written = [] ∧
        executed.masked = executed'.masked) k
      (r.conclude result) (r'.conclude result) := by
  have commands := commands_congr same
  have rows := rowsAffected_congr same
  cases result with
  | ok _ =>
    have total : Executed.total ⟨r.commands, r.rowsAffected⟩ =
        Executed.total ⟨r'.commands, r'.rowsAffected⟩ := congrArg (List.foldr (· + ·) 0) rows
    simp only [conclude, total]
    split
    · exact .done (.ok ⟨fresh rfl, by rw [Executed.masked, Executed.masked, commands, rows]⟩)
    · exact .done (.error _)
  | error abort =>
    cases abort with
    | failed e =>
      simp only [conclude, classify_congr same]
      refine (classify_twins r' e).bind fun _ reported _ both => ?_
      subst both
      exact .done (.error _)
    | totalOutOfRange => exact .done (.error _)
    | positionOutOfRange => exact .done (.error _)

end Reconciliation

/-! ### Statements -/

section

variable {α α' : Type}

theorem connected_twins (manner : Manner) {Q : Reading → α → α' → Prop} {use : Attempt α}
    {use' : Attempt α'} (used : Twins (Agree Q) k use.run use'.run) :
    Twins (Agree Q) k (manner.connected use) (manner.connected use') := by
  have called := twins_call (k := k) manner .connection .connect fun _ => rfl
  have opened : Twins (Agree Q) k
      (manner.perform .connection .connect >>= fun _ => use).run
      (manner.perform .connection .connect >>= fun _ => use').run :=
    called.attempt_bind fun _ _ _ ⟨kept, _⟩ => by
      subst kept
      exact used
  refine opened.bind fun k result result' agree => ?_
  have closed : Twins _ k (request .close) (request .close) := twins_tell rfl fun _ => rfl
  refine closed.bind fun _ _ _ kept => ?_
  subst kept
  exact .done agree

/-- From statements that differ in values only, which may not be logged, `use` and `use'` read the
results of the commands that were written. -/
theorem reading_twins (manner : Manner) {s s' : Statement} (same : s.masked = s'.masked)
    (discreet : s.sensitive = false) {Q : Reading → α → α' → Prop} {use : Program α}
    {use' : Program α'} (used : Twins Q ⟨[], k.written⟩ use use') :
    Twins (Agree Q) k (s.reading manner use) (s'.reading manner use') := by
  have discreet' : s'.sensitive = false := by
    rw [← discreet]
    exact (congrArg Statement.sensitive same).symm
  have command : Twins (Agree fun k' command command' => k = k' ∧
      command.masked = command'.masked) k s.command.run s'.command.run := by
    have asked := twins_ask (k := k) (r := .settings) (fun _ => rfl) fun _ => rfl
    refine asked.lift.attempt_bind fun _ settings _ ⟨kept, both⟩ => ?_
    subst kept both
    have bound : (s.bind settings).masked = (s'.bind settings).masked := by
      rw [s.masked_bind, same, ← s'.masked_bind]
    have logged : (Log.Entry.executingCommand s.sensitive (s.bind settings)).masked =
        (Log.Entry.executingCommand s'.sensitive (s'.bind settings)).masked := by
      rw [discreet, discreet', Log.Entry.masked, Log.Entry.masked, bound]
    exact Twins.lift ((twins_log logged).bind fun _ _ _ kept => .done ⟨kept, bound⟩)
  refine connected_twins manner (command.attempt_bind fun _ command command' ⟨kept, both⟩ => ?_)
  subst kept
  refine (twins_query manner both).attempt_bind fun _ _ _ sent => ?_
  subst sent
  exact used.lift

end

/-! ### Batches -/

namespace Script

theorem fragments_twins {commands commands' : List Command}
    (same : commands.map (·.masked) = commands'.map (·.masked)) :
    Twins (Agree fun k' text text' =>
        { k with written := k.written ++ commands } = k' ∧ text = text') k
      (fragments commands).run (fragments commands').run := by
  induction commands generalizing commands' k with
  | nil =>
    obtain rfl := List.map_eq_nil_iff.mp same.symm
    exact twins_pure ⟨by rw [List.append_nil], rfl⟩
  | cons c rest ih =>
    obtain ⟨c', rest', rfl, first, others⟩ := List.map_eq_cons_iff.mp same.symm
    have masked : (Request.fragment c).masked = (Request.fragment c').masked :=
      congrArg Request.fragment first.symm
    have asked : Twins (fun k' (r r' : Rendering) =>
        { k with written := k.written ++ [c] } = k' ∧ r = r') k
        (request (.fragment c)) (request (.fragment c')) :=
      twins_request masked fun _ _ told => ⟨rfl, eq_of_heq (told.same rfl)⟩
    refine asked.lift.attempt_bind fun _ r _ ⟨written, both⟩ => ?_
    subst written both
    cases r.failure with
    | some e => exact twins_throw _
    | none =>
      refine (ih others.symm).attempt_bind fun _ text _ ⟨written, both⟩ => ?_
      subst written both
      exact twins_pure ⟨by rw [List.append_assoc, List.singleton_append], rfl⟩

theorem closing_twins (s : Script) :
    Twins (fun k' footer footer' => k = k' ∧ footer = footer') k s.closing s.closing := by
  unfold closing
  split
  · exact .done ⟨rfl, rfl⟩
  · exact twins_ask (r := .footer) (fun _ => rfl) fun _ => rfl

/-- A script that holds no fragment yet asks for those of all commands. -/
theorem render_twins {s : Script} (unwritten : s.rendered = 0) {commands commands' : List Command}
    (same : commands.map (·.masked) = commands'.map (·.masked)) :
    Twins (fun k' drawn drawn' => drawn.1 = drawn'.1 ∧
        Agree (fun k' text text' => { k with written := k.written ++ commands } = k' ∧
          text = text') k' drawn.2 drawn'.2) k
      (s.render commands) (s.render commands') := by
  have count : commands.length = commands'.length := by
    simpa only [List.length_map] using congrArg List.length same
  unfold render
  rw [← count, unwritten]
  split
  next finished =>
    obtain rfl := List.length_eq_zero_iff.mp finished.1.symm
    exact .done ⟨rfl, .ok ⟨by rw [List.append_nil], rfl⟩⟩
  next =>
    refine (fragments_twins same).bind fun k' outcome outcome' agree => ?_
    cases agree with
    | error e => exact .done ⟨rfl, .error e⟩
    | ok holds =>
      obtain ⟨rfl, rfl⟩ := holds
      refine s.closing_twins.bind fun _ footer _ ⟨kept, both⟩ => ?_
      subst kept both
      exact .done ⟨rfl, .ok ⟨rfl, rfl⟩⟩

end Script

namespace Batch

variable {b b' : Batch}

theorem masked_eq_iff : b.masked = b'.masked ↔
    b.placeholder = b'.placeholder ∧ b.limits = b'.limits ∧ b.options = b'.options ∧
      b.commands.map (·.masked) = b'.commands.map (·.masked) ∧
      b.parameterCount = b'.parameterCount ∧ b.script = b'.script := by
  simp only [masked, mk.injEq]

theorem length_congr (same : b.masked = b'.masked) : b.commands.length = b'.commands.length := by
  obtain ⟨-, -, -, commands, -, -⟩ := masked_eq_iff.mp same
  simpa only [List.length_map] using congrArg List.length commands

theorem isEmpty_congr (same : b.masked = b'.masked) :
    b.commands.isEmpty = b'.commands.isEmpty := by
  obtain ⟨-, -, -, commands, -, -⟩ := masked_eq_iff.mp same
  simpa only [List.isEmpty_map] using congrArg List.isEmpty commands

theorem parameters_congr (same : b.masked = b'.masked) :
    b.parameters.map (·.masked) = b'.parameters.map (·.masked) := by
  have bound (b : Batch) :
      b.parameters.map (·.masked) = b.masked.parameters.map (·.masked) := by
    simp only [parameters, masked, List.map_flatMap, List.flatMap_map]
    exact List.flatMap_congr fun c _ => c.masked_parameters b.placeholder
  rw [bound, same, ← bound]

/-- Writing the text leaves two batches with the same script, and the same text or error. -/
theorem finalize_twins (same : b.masked = b'.masked) (unwritten : b.script.rendered = 0) :
    Twins (fun k' drawn drawn' =>
        (∃ script, drawn.1 = { b with script } ∧ drawn'.1 = { b' with script }) ∧
        Agree (fun k' text text' => { k with written := k.written ++ b.commands } = k' ∧
          text = text') k' drawn.2 drawn'.2) k
      b.finalize b'.finalize := by
  obtain ⟨-, -, -, commands, -, scripts⟩ := masked_eq_iff.mp same
  unfold finalize
  rw [← isEmpty_congr same, ← scripts]
  split
  next none =>
    refine .done ⟨⟨b.script, rfl, by rw [scripts]⟩, .ok ⟨?_, rfl⟩⟩
    rw [List.isEmpty_iff.mp none, List.append_nil]
  next =>
    refine (Script.render_twins unwritten commands).bind fun _ drawn drawn' ⟨both, agree⟩ => ?_
    exact .done ⟨⟨drawn.1, rfl, by rw [both]⟩, agree⟩

/-- The statements of two batches that differ in values only do so as well. -/
theorem statement_twins (same : b.masked = b'.masked) (unwritten : b.script.rendered = 0) :
    Twins (fun k' drawn drawn' =>
        (∃ script, drawn.1 = { b with script } ∧ drawn'.1 = { b' with script }) ∧
        Agree (fun k' s s' => { k with written := k.written ++ b.commands } = k' ∧
          s.masked = s'.masked ∧ s.sensitive = b.options.sensitive) k' drawn.2 drawn'.2) k
      b.statement b'.statement := by
  obtain ⟨placeholders, -, options, commands, -, -⟩ := masked_eq_iff.mp same
  refine (finalize_twins same unwritten).bind fun k' drawn drawn' ⟨⟨script, scripts⟩, agree⟩ => ?_
  obtain ⟨drawn, text⟩ := drawn
  obtain ⟨drawn', text'⟩ := drawn'
  obtain ⟨rfl, rfl⟩ := scripts
  refine .done ⟨⟨script, rfl, rfl⟩, ?_⟩
  cases agree with
  | error e => exact .error e
  | @ok text text' holds =>
    obtain ⟨written, rfl⟩ := holds
    refine .ok ⟨written, ?_, rfl⟩
    change Statement.mk text (b.parameters.map (·.masked)) b.options.sensitive b.options.timeout =
      ⟨text, b'.parameters.map (·.masked), b'.options.sensitive, b'.options.timeout⟩
    rw [parameters_congr same, options]

/-- What becomes of the two batches, and that their round trips have ended. -/
theorem concluded_twins {r r' : Reconciliation} (same : r.masked = r'.masked)
    {result : Except (Abort Error) Unit} (fresh : result = .ok () → k.written = [])
    {count count' : Nat} (counts : count = count') :
    Twins (Agree fun k' executed executed' => k'.written = [] ∧
        executed.masked = executed'.masked) k
      (do
        let result ← r.conclude result
        let rows := match result with
          | .ok executed => executed.total
          | .error _ => 0
        Program.request (.record (.batchFinish count rows ()))
        return result)
      (do
        let result ← r'.conclude result
        let rows := match result with
          | .ok executed => executed.total
          | .error _ => 0
        Program.request (.record (.batchFinish count' rows ()))
        return result) := by
  subst counts
  refine (Reconciliation.conclude_twins same fresh).bind fun k' result result' agree => ?_
  cases agree with
  | error abort => exact (twins_record rfl).bind fun _ _ _ _ => .done (.error abort)
  | @ok executed executed' holds =>
    have masked : executed.masked.total = executed'.masked.total := by rw [holds.2]
    have total : executed.total = executed'.total := masked
    refine (twins_record (by dsimp only; rw [total])).bind fun _ _ _ kept => ?_
    subst kept
    exact .done (.ok holds)

/-- Round trips with batches that differ in values only are twins. -/
theorem execute_twins (manner : Manner) (same : b.masked = b'.masked)
    (unwritten : b.script.rendered = 0) (discreet : b.options.sensitive = false)
    (fresh : k.written = []) :
    Twins (Agree fun k' executed executed' => k'.written = [] ∧
        executed.masked = executed'.masked) k
      (b.execute manner) (b'.execute manner) := by
  obtain ⟨-, -, -, commands, counts, -⟩ := masked_eq_iff.mp same
  have length := length_congr same
  unfold execute
  rw [← isEmpty_congr same]
  split
  · exact .done (.ok ⟨fresh, rfl⟩)
  · refine (statement_twins same unwritten).bind fun k' drawn drawn' written => ?_
    obtain ⟨drawn, text⟩ := drawn
    obtain ⟨drawn', text'⟩ := drawn'
    obtain ⟨⟨script, rfl, rfl⟩, agree⟩ := written
    cases agree with
    | error e => exact .done (.error _)
    | @ok s s' holds =>
      obtain ⟨rfl, statements, sensitive⟩ := holds
      have started : (.batchStart b.commands.length b.parameterCount : Metrics.Notice) =
          .batchStart b'.commands.length b'.parameterCount := by rw [length, counts]
      refine (twins_record started).bind fun _ _ _ kept => ?_
      subst kept
      -- nothing was written before, so the results are those of this batch's commands
      have used := Reconciliation.consumeIn_twins (k := ⟨[], k.written ++ b.commands⟩) manner
        commands (by rw [fresh, List.nil_append])
      have read := reading_twins (k := { k with written := k.written ++ b.commands }) manner
        statements (sensitive.trans discreet) used
      refine read.bind fun k' read read' agree => ?_
      cases agree with
      | error e =>
        have failed : Except.error (Abort.failed e) = Except.ok () → k'.written = [] := nofun
        have both : (Reconciliation.start b.commands).masked =
            (Reconciliation.start b'.commands).masked := congrArg (Reconciliation.mk []) commands
        exact concluded_twins both failed length
      | @ok walked walked' holds =>
        obtain ⟨r, result⟩ := walked
        obtain ⟨r', result'⟩ := walked'
        obtain ⟨both, rfl, kept⟩ := holds
        exact concluded_twins both (fun finished => (kept finished).symm) length

end Batch

end BatchedSave
