import BatchedSave.Batch.Basic
import BatchedSave.Proofs.Program.Runs

/-!
# Histories of a batch

What one call on a batch can do, said once for each of its endings: `Tried` for a command that is
tried and `Rendered` for a text that is asked for, both with the exchanges the call makes. A history
is any sequence of such calls on a fresh batch, whatever the limits, the dialect and the commands
are. What holds of a batch at every moment is then shown call by call.
-/
namespace BatchedSave

/-- A question to limits that are consulted. -/
def Request.OfLimits : Request → Prop
  | .mayAdd .. | .accepts _ => True
  | _ => False

theorem Limits.mayAdd_asks (limits : Limits) (view : BatchView) (c : Command) :
    (limits.mayAdd view c).Asks Request.OfLimits := by
  cases limits with
  | policy p => trivial
  | consulted => exact Program.asks_request trivial

theorem Limits.accepts_asks (limits : Limits) (view : BatchView) :
    (limits.accepts view).Asks Request.OfLimits := by
  cases limits with
  | policy p => trivial
  | consulted => exact Program.asks_request trivial

namespace Batch

/-- A batch on which nothing has been called yet. -/
def fresh (placeholder : String → String) (limits : Limits) (options : BatchOptions) : Batch :=
  { placeholder, limits, options }

/-- The exchanges that report a full batch. -/
def reportFull (b : Batch) : List Exchange :=
  [⟨.log (.batchFull b.commands.length b.parameterCount), ()⟩,
    ⟨.record (.batchFull b.commands.length), ()⟩]

/-- How a batch is made ready for a command: an empty one starts its script anew. -/
inductive Readied (b : Batch) : List Exchange → Batch → Prop
  | opened (header : String) (empty : b.commands = []) :
    Readied b [⟨.header, header⟩] { b with script := { text := header } }
  | kept (filled : b.commands ≠ []) : Readied b [] b

/-- How a command that is tried on a batch ends: refused for what it is, declined before it is
added, added, taken out again, or given up because the limits failed. -/
inductive Tried (b : Batch) (c : Command) :
    List Exchange → Batch → Except Error Admission → Prop
  | refused {refusal : Refusal} (invalid : c.validate = .error refusal) :
    Tried b c [] b (.error refusal.toError)
  | declined {opening asked : List Exchange} {ready : Batch} (valid : c.validate = .ok ())
      (readied : b.Readied opening ready)
      (answered : (b.limits.mayAdd ready.view c).Runs asked false) :
    Tried b c (opening ++ asked ++ ready.reportFull) ready (.ok (.full c))
  | added {opening asked checked : List Exchange} {ready : Batch} (valid : c.validate = .ok ())
      (readied : b.Readied opening ready)
      (answered : (b.limits.mayAdd ready.view c).Runs asked true)
      (accepted : (b.limits.accepts (ready.push c).view).Runs checked (.ok true)) :
    Tried b c (opening ++ asked ++ checked) (ready.push c) (.ok .added)
  | rejected {opening asked checked : List Exchange} {ready : Batch} (valid : c.validate = .ok ())
      (readied : b.Readied opening ready)
      (answered : (b.limits.mayAdd ready.view c).Runs asked true)
      (accepted : (b.limits.accepts (ready.push c).view).Runs checked (.ok false)) :
    Tried b c (opening ++ asked ++ checked ++ ready.reportFull) ready (.ok (.full c))
  | failed {opening asked checked : List Exchange} {ready : Batch} {e : Error}
      (valid : c.validate = .ok ()) (readied : b.Readied opening ready)
      (answered : (b.limits.mayAdd ready.view c).Runs asked true)
      (accepted : (b.limits.accepts (ready.push c).view).Runs checked (.error e)) :
    Tried b c (opening ++ asked ++ checked) ready (.error e)

theorem prepared_runs {b ready : Batch} {trace : List Exchange}
    (run : b.prepared.Runs trace ready) : b.Readied trace ready := by
  unfold prepared at run
  split at run
  next empty =>
    obtain ⟨_, _, script, rfl, started, done⟩ := Program.runs_bind.mp run
    obtain ⟨header, _, rfl, rest⟩ := Program.runs_request_bind.mp started
    obtain ⟨rfl, rfl⟩ := Program.runs_done_iff.mp rest
    obtain ⟨rfl, rfl⟩ := Program.runs_done_iff.mp done
    exact .opened header (List.isEmpty_iff.mp empty)
  next filled =>
    obtain ⟨rfl, rfl⟩ := Program.runs_done_iff.mp run
    exact .kept fun none => filled (List.isEmpty_iff.mpr none)

theorem full_runs {b : Batch} {c : Command} {trace : List Exchange} {admission : Admission}
    (run : (b.full c).Runs trace admission) : trace = b.reportFull ∧ admission = .full c := by
  obtain ⟨_, _, rfl, logged⟩ := Program.runs_request_bind.mp run
  obtain ⟨_, _, rfl, recorded⟩ := Program.runs_request_bind.mp logged
  obtain ⟨rfl, rfl⟩ := Program.runs_done_iff.mp recorded
  exact ⟨rfl, rfl⟩

/-- Taking out what has just been added gives the batch back as it was. -/
theorem pop_push (b : Batch) (c : Command) :
    (b.push c).pop c.parameterCount = .ok (c, b) := by
  simp [pop, push]

/-- What becomes of a command that is tried, in full. -/
theorem tryAdd_runs {b after : Batch} {c : Command} {trace : List Exchange}
    {result : Except Error Admission} (run : (b.tryAdd c).Runs trace (after, result)) :
    b.Tried c trace after result := by
  unfold tryAdd at run
  cases valid : c.validate with
  | error refusal =>
    rw [valid] at run
    obtain ⟨rfl, same⟩ := Program.runs_done_iff.mp run
    cases same
    exact .refused valid
  | ok _ =>
    rw [valid] at run
    obtain ⟨opening, _, ready, rfl, prepared, rest⟩ := Program.runs_bind.mp run
    have readied := prepared_runs prepared
    have limits : ready.limits = b.limits := by cases readied <;> rfl
    obtain ⟨asked, _, allowed, rfl, answered, rest⟩ := Program.runs_bind.mp rest
    rw [limits] at answered
    cases allowed with
    | false =>
      obtain ⟨_, _, admission, rfl, reported, done⟩ := Program.runs_bind.mp rest
      obtain ⟨rfl, rfl⟩ := full_runs reported
      obtain ⟨rfl, same⟩ := Program.runs_done_iff.mp done
      cases same
      simpa only [List.append_nil, List.append_assoc] using Tried.declined valid readied answered
    | true =>
      obtain ⟨checked, _, verdict, rfl, accepted, rest⟩ := Program.runs_bind.mp rest
      rw [limits] at accepted
      rcases verdict with e | fits
      · simp only [pop_push] at rest
        obtain ⟨rfl, same⟩ := Program.runs_done_iff.mp rest
        cases same
        simpa only [List.append_nil, List.append_assoc] using
          Tried.failed valid readied answered accepted
      · cases fits with
        | true =>
          obtain ⟨rfl, same⟩ := Program.runs_done_iff.mp rest
          cases same
          simpa only [List.append_nil, List.append_assoc] using
            Tried.added valid readied answered accepted
        | false =>
          simp only [pop_push] at rest
          obtain ⟨_, _, admission, rfl, reported, done⟩ := Program.runs_bind.mp rest
          obtain ⟨rfl, rfl⟩ := full_runs reported
          obtain ⟨rfl, same⟩ := Program.runs_done_iff.mp done
          cases same
          simpa only [List.append_nil, List.append_assoc] using
            Tried.rejected valid readied answered accepted

end Batch

/-! ### Rendering -/

namespace Script

/-- How the fragments of commands are asked for: in order, up to the first failure. -/
inductive Fragmented : List Command → List Exchange → Except Error String → Prop
  | nil : Fragmented [] [] (.ok "")
  | failed {c : Command} {rest : List Command} (junk : String) (e : Error) :
    Fragmented (c :: rest) [⟨.fragment c, Rendering.mk junk (some e)⟩] (.error e)
  | cons {c : Command} {rest : List Command} {trace : List Exchange} {result : Except Error String}
      (text : String) (more : Fragmented rest trace result) :
    Fragmented (c :: rest) (⟨.fragment c, Rendering.mk text none⟩ :: trace)
      (result.map (text ++ ·))

/-- How a rendering ends: nothing was left to render, a fragment failed and the script is as it was,
or the fragments went between the body and the footer. -/
inductive Rendered (s : Script) (commands : List Command) :
    List Exchange → Script → Except Error String → Prop
  | complete (all : s.rendered = commands.length) (closed : s.footerAt.isSome) :
    Rendered s commands [] s (.ok s.text)
  | failed {trace : List Exchange} {e : Error}
      (fragments : Fragmented (commands.drop s.rendered) trace (.error e)) :
    Rendered s commands trace s (.error e)
  | extended {asked closing : List Exchange} {added footer : String}
      (incomplete : ¬ (s.rendered = commands.length ∧ s.footerAt.isSome))
      (fragments : Fragmented (commands.drop s.rendered) asked (.ok added))
      (closed : s.closing.Runs closing footer) :
    Rendered s commands (asked ++ closing)
      { text := s.body ++ added ++ footer
        rendered := commands.length
        footerAt := some (s.body ++ added).length
        footer := some footer }
      (.ok (s.body ++ added ++ footer))

theorem fragments_runs {commands : List Command} {trace : List Exchange}
    {result : Except Error String} (run : (fragments commands).run.Runs trace result) :
    Fragmented commands trace result := by
  induction commands generalizing trace result with
  | nil =>
    obtain ⟨rfl, rfl⟩ := Program.runs_attempt_pure.mp run
    exact .nil
  | cons c rest ih =>
    obtain ⟨_, _, r, rfl, first, more⟩ := Program.runs_lift_bind.mp run
    obtain rfl := Program.runs_request_iff.mp first
    obtain ⟨text, failure⟩ := r
    cases failure with
    | some e =>
      obtain ⟨rfl, rfl⟩ := Program.runs_throw.mp more
      exact .failed text e
    | none =>
      rcases Program.runs_attempt_bind.mp more with
        ⟨e, rfl, failed⟩ | ⟨_, _, added, rfl, others, done⟩
      · exact .cons text (ih failed)
      · obtain ⟨rfl, rfl⟩ := Program.runs_attempt_pure.mp done
        rw [List.append_nil]
        exact .cons text (ih others)

theorem render_runs {s after : Script} {commands : List Command} {trace : List Exchange}
    {result : Except Error String} (run : (s.render commands).Runs trace (after, result)) :
    s.Rendered commands trace after result := by
  unfold render at run
  split at run
  next complete =>
    obtain ⟨rfl, same⟩ := Program.runs_done_iff.mp run
    cases same
    exact .complete complete.1 complete.2
  next incomplete =>
    obtain ⟨asked, _, outcome, rfl, rendered, rest⟩ := Program.runs_bind.mp run
    have fragmented := fragments_runs rendered
    cases outcome with
    | error e =>
      obtain ⟨rfl, same⟩ := Program.runs_done_iff.mp rest
      cases same
      rw [List.append_nil]
      exact .failed fragmented
    | ok added =>
      obtain ⟨closing, _, footer, rfl, closed, done⟩ := Program.runs_bind.mp rest
      obtain ⟨rfl, same⟩ := Program.runs_done_iff.mp done
      cases same
      rw [List.append_nil]
      exact .extended incomplete fragmented closed

end Script

namespace Batch

theorem finalize_runs {b after : Batch} {trace : List Exchange} {result : Except Error String}
    (run : b.finalize.Runs trace (after, result)) :
    (b.commands = [] ∧ trace = [] ∧ after = b ∧ result = .ok "") ∨
      (b.commands ≠ [] ∧ ∃ script, after = { b with script } ∧
        b.script.Rendered b.commands trace script result) := by
  unfold finalize at run
  split at run
  next empty =>
    obtain ⟨rfl, same⟩ := Program.runs_done_iff.mp run
    cases same
    exact .inl ⟨List.isEmpty_iff.mp empty, rfl, rfl, rfl⟩
  next filled =>
    obtain ⟨_, _, ⟨script, outcome⟩, rfl, rendered, done⟩ := Program.runs_bind.mp run
    obtain ⟨rfl, same⟩ := Program.runs_done_iff.mp done
    cases same
    rw [List.append_nil]
    exact .inr ⟨fun none => filled (List.isEmpty_iff.mpr none), script, rfl,
      Script.render_runs rendered⟩

/-! ### Histories -/

/-- A call on a batch and what it returned. -/
inductive Call where
  | tried (c : Command) (result : Except Error Admission)
  | finalized (result : Except Error String)

/-- The command that a call added. -/
def Call.accepted? : Call → Option Command
  | tried c (.ok .added) => some c
  | _ => none

/-- The commands that calls added, in order. -/
def accepted (calls : List Call) : List Command :=
  calls.filterMap Call.accepted?

/-- One call takes a batch to the next. -/
inductive Step (b : Batch) : Call → List Exchange → Batch → Prop
  | tried {c : Command} {trace : List Exchange} {after : Batch} {result : Except Error Admission}
      (run : (b.tryAdd c).Runs trace (after, result)) : Step b (.tried c result) trace after
  | finalized {trace : List Exchange} {after : Batch} {result : Except Error String}
      (run : b.finalize.Runs trace (after, result)) : Step b (.finalized result) trace after

/-- Calls on a batch, one after the other, with all the exchanges they made. -/
inductive History (first : Batch) : List Call → List Exchange → Batch → Prop
  | start : History first [] [] first
  | call {calls : List Call} {trace exchanges : List Exchange} {b after : Batch} {next : Call}
      (earlier : History first calls trace b) (step : b.Step next exchanges after) :
    History first (calls ++ [next]) (trace ++ exchanges) after

theorem accepted_append (calls : List Call) (next : Call) :
    accepted (calls ++ [next]) = accepted calls ++ next.accepted?.toList := by
  cases taken : next.accepted? <;> simp [accepted, taken]

/-- A batch that was made ready holds the commands it held before. -/
theorem Readied.commands_eq {b ready : Batch} {trace : List Exchange}
    (readied : b.Readied trace ready) : ready.commands = b.commands := by
  cases readied <;> rfl

/-- One call adds the command it accepts, if it accepts one, behind the others. -/
theorem Step.commands_eq {b after : Batch} {next : Call} {trace : List Exchange}
    (step : b.Step next trace after) : after.commands = b.commands ++ next.accepted?.toList := by
  cases step with
  | tried run =>
    cases tryAdd_runs run with
    | refused => simp [Call.accepted?]
    | declined _ readied => simpa [Call.accepted?] using readied.commands_eq
    | added _ readied => simp [Call.accepted?, push, readied.commands_eq]
    | rejected _ readied => simpa [Call.accepted?] using readied.commands_eq
    | failed _ readied => simpa [Call.accepted?] using readied.commands_eq
  | finalized run =>
    rcases finalize_runs run with ⟨-, -, rfl, -⟩ | ⟨-, script, rfl, -⟩ <;> simp [Call.accepted?]

/-- The commands of a batch are the accepted ones, in the order in which they were. -/
theorem History.commands_eq {first b : Batch} {calls : List Call} {trace : List Exchange}
    (history : History first calls trace b) (unused : first.commands = []) :
    b.commands = accepted calls := by
  induction history with
  | start => exact unused
  | call _ step ih => rw [step.commands_eq, ih, accepted_append]

end Batch

end BatchedSave
