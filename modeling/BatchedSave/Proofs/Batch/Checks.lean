import BatchedSave.Proofs.Batch.History
import BatchedSave.Proofs.Program.Checks

/-!
# What a batch relies on

A batch takes a command out again that it has just added, and puts its text together from a part
that is rendered and a footer that starts somewhere in it. With checks, a command has to be there
and its parameters have to be counted, and both places have to lie where they belong. The first two
hold because nothing is taken out that was not added before. The others hold of a `Steady` batch,
and that is what calls leave behind.
-/
namespace BatchedSave

namespace Script

/-- The text without its footer, which has to start within the text. -/
def bodyChecked (s : Script) : Checked String :=
  match s.footerAt with
  | some start => do
    Checked.within start s.text.length
    return String.ofList (s.text.toList.take start)
  | none => return s.text

/-- Renders the commands that are not in the text yet; no more may be in it than there are. -/
def renderChecked (s : Script) (commands : List Command) :
    Checked (Script × Except Error String) :=
  if s.rendered = commands.length ∧ s.footerAt.isSome then return (s, .ok s.text)
  else do
    Checked.within s.rendered commands.length
    match ← (fragments (commands.drop s.rendered)).run with
    | .error e => return (s, .error e)
    | .ok added =>
      let body := (← s.bodyChecked) ++ added
      let footer ← s.closing
      let s : Script :=
        { text := body ++ footer
          rendered := commands.length
          footerAt := some body.length
          footer := some footer }
      return (s, .ok s.text)

/-- No more commands are in the text than there are, and the footer starts within the text. -/
structure Steady (s : Script) (commands : List Command) : Prop where
  watermark : s.rendered ≤ commands.length
  footer : ∀ start ∈ s.footerAt, start ≤ s.text.length

variable {s after : Script} {commands : List Command} {trace : List Exchange}

theorem steady_started (header : String) (commands : List Command) :
    Steady { text := header } commands where
  watermark := Nat.zero_le _
  footer := nofun

theorem Steady.push (steady : s.Steady commands) (c : Command) : s.Steady (commands ++ [c]) where
  watermark := by
    rw [List.length_append]
    exact Nat.le_add_right_of_le steady.watermark
  footer := steady.footer

theorem Rendered.steady {result : Except Error String}
    (rendered : s.Rendered commands trace after result) (steady : s.Steady commands) :
    after.Steady commands := by
  cases rendered with
  | complete => exact steady
  | failed => exact steady
  | extended =>
    refine ⟨Nat.le_refl _, ?_⟩
    rintro start ⟨⟩
    simp

theorem Steady.bodyChecked_eq (steady : s.Steady commands) : s.bodyChecked = pure s.body := by
  unfold body bodyChecked
  cases found : s.footerAt with
  | none => rfl
  | some start =>
    have inside := steady.footer start found
    simp [Checked.within, inside]

theorem Steady.render_passes (steady : s.Steady commands) :
    (s.render commands).Passes (s.renderChecked commands) := by
  unfold render renderChecked
  split
  · exact Program.passes_pure _
  · refine .within steady.watermark ((Program.passes_lift _).bind fun _ outcome _ => ?_)
    cases outcome with
    | error e => exact Program.passes_pure _
    | ok added =>
      simp only [steady.bodyChecked_eq, pure_bind]
      exact (Program.passes_lift _).bind fun _ footer _ => Program.passes_pure _

/-- A script that is not steady lapses. -/
example : Script.renderChecked { rendered := 1 } [] = throw (.beyond 1 0) := rfl

end Script

namespace Batch

/-- Takes the last command out again. There has to be one, and the parameters to be taken off the
count have to be in it. -/
def popChecked (b : Batch) (parameters : Nat) : Checked (Command × Batch) :=
  match b.commands.getLast? with
  | none =>
    Checked.broken
      (.plain .invariantViolation .batch "rollback found no tentatively added command")
  | some c => do
    Checked.within parameters b.parameterCount
    return (c, { b with
      commands := b.commands.dropLast
      parameterCount := b.parameterCount - parameters })

def tryAddChecked (b : Batch) (c : Command) : Checked (Batch × Except Error Admission) := do
  match c.validate with
  | .error refusal => return (b, .error refusal.toError)
  | .ok () =>
    let b ← b.prepared
    if !(← b.limits.mayAdd b.view c) then
      return (b, .ok (← b.full c))
    else
      let grown := b.push c
      match ← b.limits.accepts grown.view with
      | .ok true => return (grown, .ok .added)
      | .ok false =>
        let (c, b) ← grown.popChecked c.parameterCount
        return (b, .ok (← b.full c))
      | .error e =>
        let (_, b) ← grown.popChecked c.parameterCount
        return (b, .error e)

def finalizeChecked (b : Batch) : Checked (Batch × Except Error String) :=
  if b.commands.isEmpty then return (b, .ok "")
  else do
    let (script, result) ← b.script.renderChecked b.commands
    return ({ b with script }, result)

def statementChecked (b : Batch) : Checked (Batch × Except Error Statement) := do
  let (b, text) ← b.finalizeChecked
  return (b, text.map fun text =>
    { text
      parameters := b.parameters
      sensitive := b.options.sensitive
      timeout := b.options.timeout })

/-- The script of the batch is steady for its commands. -/
def Steady (b : Batch) : Prop :=
  b.script.Steady b.commands

variable {b ready after : Batch} {c : Command} {trace : List Exchange}

theorem Readied.steady (readied : b.Readied trace ready) (steady : b.Steady) : ready.Steady := by
  cases readied with
  | opened header empty => exact Script.steady_started header b.commands
  | kept filled => exact steady

/-- One call leaves a steady batch steady. -/
theorem Step.steady {next : Call} (step : b.Step next trace after) (steady : b.Steady) :
    after.Steady := by
  cases step with
  | tried run =>
    cases tryAdd_runs run with
    | refused => exact steady
    | declined _ readied => exact readied.steady steady
    | added _ readied => exact (readied.steady steady).push _
    | rejected _ readied => exact readied.steady steady
    | failed _ readied => exact readied.steady steady
  | finalized run =>
    rcases finalize_runs run with ⟨-, -, rfl, -⟩ | ⟨-, script, rfl, rendered⟩
    · exact steady
    · exact rendered.steady steady

/-- What has just been added can be taken out again. -/
theorem popChecked_push (b : Batch) (c : Command) :
    (b.push c).popChecked c.parameterCount = pure (c, b) := by
  simp [popChecked, push, Checked.within]

/-- A command is taken out only where it has been added, so the checks hold for any batch. -/
theorem tryAdd_passes (b : Batch) (c : Command) : (b.tryAdd c).Passes (b.tryAddChecked c) := by
  unfold tryAdd tryAddChecked
  cases c.validate with
  | error refusal => exact Program.passes_pure _
  | ok _ =>
    refine (Program.passes_lift _).bind fun _ ready _ => ?_
    refine (Program.passes_lift _).bind fun _ allowed _ => ?_
    cases allowed with
    | false => exact (Program.passes_lift _).bind fun _ admission _ => Program.passes_pure _
    | true =>
      refine (Program.passes_lift _).bind fun _ verdict _ => ?_
      rcases verdict with e | fits
      · simp only [pop_push, popChecked_push, pure_bind]
        exact Program.passes_pure _
      · cases fits with
        | true => exact Program.passes_pure _
        | false =>
          simp only [pop_push, popChecked_push, pure_bind]
          exact (Program.passes_lift _).bind fun _ admission _ => Program.passes_pure _

theorem Steady.finalize_passes (steady : b.Steady) : b.finalize.Passes b.finalizeChecked := by
  unfold finalize finalizeChecked
  split
  · exact Program.passes_pure _
  · exact steady.render_passes.bind fun _ _ _ => Program.passes_pure _

theorem Steady.statement_passes (steady : b.Steady) : b.statement.Passes b.statementChecked :=
  steady.finalize_passes.bind fun _ _ _ => Program.passes_pure _

end Batch

end BatchedSave
