import BatchedSave.Proofs.Batch.Soundness
import BatchedSave.Proofs.Program.Surroundings

/-!
# A command that is not accepted leaves no trace

A command is turned away in four places: it is refused for its columns, declined before it is added,
or added and taken out again because the limits do not accept it or fail. `Unnoticed` says what the
batch is like afterwards: as it was if it had commands, and as it was but for its script if it had
none. The script of an empty batch is never looked at, so `uses`, which is whatever can be done with
a batch later on and all that is seen of it, cannot tell the difference (`Unnoticed.uses_eq`).
-/
namespace BatchedSave.Batch

/-! ### What is seen of a batch -/

/-- Something that is done with a batch. -/
inductive Use where
  | attempt (c : Command)
  | text
  | statement

/-- What it returns. -/
inductive Returned where
  | attempted (result : Except Error Admission)
  | text (result : Except Error String)
  | statement (result : Except Error Statement)

/-- What is seen of a batch after it has been used. -/
structure Sight where
  returned : Returned
  commands : List Command
  parameterCount : Nat

def use (b : Batch) : Use → Program (Batch × Returned)
  | .attempt c => do
    let (b, result) ← b.tryAdd c
    return (b, .attempted result)
  | .text => do
    let (b, result) ← b.finalize
    return (b, .text result)
  | .statement => do
    let (b, result) ← b.statement
    return (b, .statement result)

/-- Uses a batch again and again. -/
def uses (b : Batch) : List Use → Program (List Sight)
  | [] => return []
  | u :: later => do
    let (b, returned) ← b.use u
    return ⟨returned, b.commands, b.parameterCount⟩ :: (← b.uses later)

variable {b after : Batch} {c : Command} {trace : List Exchange}

theorem prepared_with_script (empty : b.commands = []) (script : Script) :
    { b with script }.prepared = b.prepared := by
  simp only [prepared, empty, List.isEmpty_nil, if_true]

theorem finalize_empty (empty : b.commands = []) : b.finalize = .done (b, .ok "") := by
  simp only [finalize, empty, List.isEmpty_nil, if_true, Program.pure_eq]

/-- The script of an empty batch makes no difference to what is done with it later. The induction is
on the uses: one of them starts the script anew, or the batch stays empty. -/
theorem uses_with_script (empty : b.commands = []) (script : Script) (later : List Use) :
    { b with script }.uses later = b.uses later := by
  induction later with
  | nil => rfl
  | cons u later ih =>
    have finalized (script : Script) :
        { b with script }.finalize = .done ({ b with script }, .ok "") := finalize_empty empty
    cases u with
    | attempt c =>
      simp only [uses, use, tryAdd, prepared_with_script empty]
      cases c.validate with
      | error refusal => simp only [Program.pure_eq, Program.done_bind, ih]
      | ok _ => rfl
    | text => simp only [uses, use, finalized, Program.done_bind, Program.pure_eq, ih]
    | statement =>
      simp only [uses, use, statement, finalized, Program.done_bind, Program.pure_eq, ih]
      rfl

/-! ### A command is turned away -/

/-- The batch is what it was, but for its script if it has no commands. -/
inductive Unnoticed (b : Batch) : Batch → Prop
  | same : Unnoticed b b
  | restarted (empty : b.commands = []) (script : Script) : Unnoticed b { b with script }

theorem Unnoticed.uses_eq (unnoticed : b.Unnoticed after) (later : List Use) :
    after.uses later = b.uses later := by
  cases unnoticed with
  | same => rfl
  | restarted empty script => exact uses_with_script empty script later

theorem Unnoticed.fields (unnoticed : b.Unnoticed after) :
    after.commands = b.commands ∧ after.parameterCount = b.parameterCount := by
  cases unnoticed <;> exact ⟨rfl, rfl⟩

theorem Readied.unnoticed {ready : Batch} (readied : b.Readied trace ready) :
    b.Unnoticed ready := by
  cases readied with
  | opened header empty => exact .restarted empty _
  | kept => exact .same

/-- The question that the limits fail to answer is about the batch with the command. -/
theorem Readied.view_push {ready : Batch} (readied : b.Readied trace ready) (c : Command) :
    (ready.push c).view = (b.push c).view := by
  cases readied <;> rfl

/-- What is returned for a command that is turned away: the command itself, or the error of whoever
refused it. -/
def TurnedAway (b : Batch) (c : Command) : Except Error Admission → Prop
  | .ok .added => False
  | .ok (.full c') => c' = c
  | .error e => (∃ refusal, c.validate = .error refusal ∧ e = refusal.toError) ∨
      ∃ checked, (b.limits.accepts (b.push c).view).Runs checked (.error e)

/-- Either of the four ways in which a command can be turned away goes unnoticed. -/
theorem Tried.unnoticed {result : Except Error Admission} (tried : b.Tried c trace after result)
    (unaccepted : result ≠ .ok .added) : b.Unnoticed after ∧ b.TurnedAway c result := by
  cases tried with
  | refused invalid => exact ⟨.same, .inl ⟨_, invalid, rfl⟩⟩
  | declined _ readied => exact ⟨readied.unnoticed, rfl⟩
  | added => exact absurd rfl unaccepted
  | rejected _ readied => exact ⟨readied.unnoticed, rfl⟩
  | failed _ readied _ accepted =>
    rw [readied.view_push] at accepted
    exact ⟨readied.unnoticed, .inr ⟨_, accepted⟩⟩

/-- A batch that has no commands is a fresh one, but for its script. -/
theorem History.blank {placeholder : String → String} {limits : Limits} {options : BatchOptions}
    {calls : List Call} (history : History (fresh placeholder limits options) calls trace b)
    (empty : b.commands = []) : (fresh placeholder limits options).Unnoticed b := by
  have counted := (history.sound (sound_fresh placeholder limits options)).counted
  have setup := history.setup_eq
  obtain ⟨_, _, _, commands, parameterCount, script⟩ := b
  obtain rfl : commands = [] := empty
  obtain rfl : parameterCount = 0 := counted
  cases setup
  exact .restarted rfl script

/-- A command that is tried on a batch and not accepted is handed back as it is, unless it is
refused or the limits fail, and changes nothing. The batch has the commands and the count it had. If
it has any commands it is the very same batch, with the same text. If it has none, its text is still
empty, and it is as good as a fresh batch. Either way, whatever is done with it later makes the same
requests, returns the same and shows the same commands as without the attempt. -/
theorem unaccepted_changes_nothing {placeholder : String → String} {limits : Limits}
    {options : BatchOptions} {calls : List Call} {tried : List Exchange}
    {result : Except Error Admission}
    (history : History (fresh placeholder limits options) calls trace b)
    (run : (b.tryAdd c).Runs tried (after, result)) (unaccepted : result ≠ .ok .added) :
    b.TurnedAway c result ∧ after.commands = b.commands ∧
      after.parameterCount = b.parameterCount ∧
      (b.commands ≠ [] → after = b) ∧
      (∀ later, after.uses later = b.uses later) ∧
      (b.commands = [] → after.finalize = .done (after, .ok "") ∧
        ∀ later, after.uses later = (fresh placeholder limits options).uses later) := by
  obtain ⟨unnoticed, turnedAway⟩ := (tryAdd_runs run).unnoticed unaccepted
  obtain ⟨commands, parameters⟩ := unnoticed.fields
  refine ⟨turnedAway, commands, parameters, fun filled => ?_, unnoticed.uses_eq, fun empty => ?_⟩
  · cases unnoticed with
    | same => rfl
    | restarted empty => exact absurd empty filled
  · refine ⟨finalize_empty (commands.trans empty), fun later => ?_⟩
    rw [unnoticed.uses_eq, (history.blank empty).uses_eq]

/-- Of three deletes two are within the caps. The text of the first has been asked for, so it ends
in a footer, when the third is added behind the second and taken out again. -/
theorem unaccepted_changes_nothing_behind_a_footer :
    ∃ (calls : List Call) (trace tried : List Exchange) (b after : Batch),
      History (fresh atPlaceholder (.caps 9 2) {}) calls trace b ∧
      b.commands = [.keyDelete 0, .keyDelete 1] ∧ b.cachedText = "-- batch\nDELETE 0;\n-- end\n" ∧
      (b.tryAdd (.keyDelete 2)).Runs tried (after, .ok (.full (.keyDelete 2))) ∧
      after = b ∧ ∀ later, after.uses later = b.uses later := by
  let first : Batch := fresh atPlaceholder (.caps 9 2) {}
  let begun : Batch := { first with script := { text := "-- batch\n" } }
  let one : Batch := begun.push (.keyDelete 0)
  let body := "-- batch\n" ++ ("DELETE 0;\n" ++ "")
  let script : Script :=
    { text := body ++ "-- end\n"
      rendered := 1
      footerAt := some body.length
      footer := some "-- end\n" }
  let closed : Batch := { one with script }
  let two : Batch := closed.push (.keyDelete 1)
  have opened : (first.tryAdd (.keyDelete 0)).Runs [⟨.header, "-- batch\n"⟩] (one, .ok .added) :=
    .exchange ⟨.header, _⟩ (.done _)
  have rendered : one.finalize.Runs
      [⟨.fragment (.keyDelete 0), Rendering.mk "DELETE 0;\n" none⟩, ⟨.footer, "-- end\n"⟩]
      (closed, .ok script.text) :=
    .exchange ⟨.fragment _, Rendering.mk _ none⟩ (.exchange ⟨.footer, "-- end\n"⟩ (.done _))
  have joined : (closed.tryAdd (.keyDelete 1)).Runs [] (two, .ok .added) := .done _
  have full : (two.tryAdd (.keyDelete 2)).Runs two.reportFull (two, .ok (.full (.keyDelete 2))) :=
    .exchange ⟨.log _, ()⟩ (.exchange ⟨.record _, ()⟩ (.done _))
  have history : History first _ _ two :=
    ((History.start.call (.tried opened)).call (.finalized rendered)).call (.tried joined)
  obtain ⟨-, -, -, same, unseen, -⟩ := unaccepted_changes_nothing history full nofun
  exact ⟨_, _, _, two, two, history, rfl, rfl, full, same nofun, unseen⟩

end BatchedSave.Batch
