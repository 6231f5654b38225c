import BatchedSave.Proofs.Batch.Checks
import BatchedSave.Proofs.Reconciliation.Checks
import BatchedSave.Proofs.Save.Course

/-!
# What a save relies on

The save with all of its checks: those of the batches it fills and sends, those of the results it
applies, and one of its own, that a command to be sent alone finds room. The batches are steady from
their start, since a save only ever adds commands to them, and the command is alone in its batch. So
none of the checks fails, whatever the limits, the dialect, the store and the caller do.
-/
namespace BatchedSave

/-! ### Round trips -/

theorem Manner.connected_map {α β : Type} (manner : Manner) (f : α → β) (use : Attempt α) :
    manner.connected (f <$> use) = Except.map f <$> manner.connected use := by
  unfold connected
  rw [← map_bind, ExceptT.run_map, bind_map_left, map_bind]
  simp only [map_bind, map_pure]

namespace Statement

/-- Reading with checks. The connection is closed before a lapse is passed on. -/
def readingChecked {α : Type} (s : Statement) (manner : Manner) (use : Checked α) :
    Checked (Except Error α) := do
  match ← s.reading manner use.run with
  | .ok (.ok a) => return .ok a
  | .ok (.error lapse) => throw lapse
  | .error e => return .error e

theorem reading_map {α β : Type} (s : Statement) (manner : Manner) (f : α → β) (use : Program α) :
    s.reading manner (f <$> use) = Except.map f <$> s.reading manner use := by
  unfold reading
  rw [← Manner.connected_map]
  simp

theorem reading_passes {α : Type} (s : Statement) (manner : Manner) {use : Program α}
    {checked : Checked α} (passes : use.Passes checked) :
    (s.reading manner use).Passes (s.readingChecked manner checked) := by
  unfold Program.Passes at passes ⊢
  have lifted (p : Program (Except Error (Except Lapse α))) :
      (liftM p : Checked (Except Error (Except Lapse α))).run = Except.ok <$> p := rfl
  rw [readingChecked, passes, reading_map, ExceptT.run_bind, lifted]
  simp only [map_eq_pure_bind, bind_assoc, pure_bind]
  refine bind_congr fun read => ?_
  cases read <;> rfl

end Statement

namespace Batch

/-- Sends a batch in one round trip, with the checks of its text and of the results. -/
def executeChecked (b : Batch) (manner : Manner) :
    Checked (Except (Abort Error) Executed) :=
  if b.commands.isEmpty then return .ok {}
  else do
    match ← b.statementChecked with
    | (_, .error e) => return .error (.failed e)
    | (b, .ok statement) =>
      let start := Reconciliation.start b.commands
      Program.request (.record (.batchStart b.commands.length b.parameterCount))
      let consumed := Reconciliation.consumeChecked manner b.commands
      let result ← match ← statement.readingChecked manner consumed with
        | .ok (r, result) => r.conclude result
        | .error e => start.conclude (.error (.failed e))
      let rows := match result with
        | .ok executed => executed.total
        | .error _ => 0
      Program.request (.record (.batchFinish b.commands.length rows ()))
      return result

theorem Steady.execute_passes {b : Batch} (steady : b.Steady) (manner : Manner) :
    (b.execute manner).Passes (b.executeChecked manner) := by
  unfold execute executeChecked
  split
  · exact Program.passes_pure _
  refine steady.statement_passes.bind fun _ made _ => ?_
  obtain ⟨b, e | statement⟩ := made
  · exact Program.passes_pure _
  refine (Program.passes_lift _).bind fun _ _ _ => ?_
  refine (statement.reading_passes manner
    (Reconciliation.consume_passes manner b.commands)).bind fun _ read _ => ?_
  have finished (concluded : Except (Abort Error) Executed) (rows : Nat) :
      Program.Passes
        (do
          Program.request (.record (.batchFinish b.commands.length rows ()))
          return concluded)
        (do
          Program.request (.record (.batchFinish b.commands.length rows ()))
          return concluded) :=
    (Program.passes_lift _).bind fun _ _ _ => Program.passes_pure concluded
  rcases read with e | ⟨r, result⟩
  · exact (Program.passes_lift _).bind fun _ concluded _ => finished concluded _
  · exact (Program.passes_lift _).bind fun _ concluded _ => finished concluded _

end Batch

/-! ### Saves -/

namespace Save

def tryAddChecked (b : Batch) (c : Command) :
    ExceptT (Abort Error) Checked (Batch × Admission) := do
  let (b, result) ← b.tryAddChecked c
  return (b, ← Checked.part (Course.ofResult result))

def sendWholeChecked (manner : Manner) (b : Batch) (o : SaveOutcome) :
    ExceptT (Abort Error) Checked SaveOutcome := do
  let executed ← ExceptT.mk (b.executeChecked manner)
  liftExcept (o.absorb executed)

/-- Sends one command in a round trip of its own, where it has to fit. -/
def sendSingleChecked (s : Save) (manner : Manner) (o : SaveOutcome) (c : Command) :
    ExceptT (Abort Error) Checked SaveOutcome := do
  let single : Batch := { s.emptyBatch with limits := .singular }
  match ← tryAddChecked single c with
  | (single, .added) => sendWholeChecked manner single o
  | (_, .full _) => Checked.broken singularRejected

def sendChecked (s : Save) (manner : Manner) (b : Batch) (o : SaveOutcome) :
    ExceptT (Abort Error) Checked SaveOutcome := do
  Program.request (.log (.executingBatch b.commands.length b.parameterCount))
  if s.splits b then b.commands.foldlM (s.sendSingleChecked manner) o
  else sendWholeChecked manner b o

def startBatchChecked (s : Save) (c : Command) : ExceptT (Abort Error) Checked Batch := do
  match ← tryAddChecked s.emptyBatch c with
  | (b, .added) => return b
  | (_, .full c) => Checked.part (Course.ofResult (.error (oversized c)))

def fillChecked (s : Save) (manner : Manner) (o : SaveOutcome) (b : Batch) :
    List Command → ExceptT (Abort Error) Checked SaveOutcome
  | [] => do
    Program.request (.pull none)
    if b.commands.isEmpty then return o else s.sendChecked manner b o
  | c :: rest => do
    Program.request (.pull (some c))
    match ← tryAddChecked b c with
    | (b, .added) => s.fillChecked manner o b rest
    | (b, .full c) =>
      if b.commands.isEmpty then Checked.part (Course.ofResult (.error (oversized c)))
      else do
        let o ← s.sendChecked manner b o
        let b ← s.startBatchChecked c
        s.fillChecked manner o b rest

/-- Saves commands in order, with all checks. -/
def runChecked (s : Save) (manner : Manner) (commands : List Command) :
    Checked (Except (Abort Error) SaveOutcome) :=
  (s.fillChecked manner {} s.emptyBatch commands).run

variable {s : Save} {manner : Manner} {b after : Batch} {c : Command} {trace : List Exchange}
variable {admission : Admission}

theorem tryAdd_passes (b : Batch) (c : Command) :
    (tryAdd b c).run.Passes (tryAddChecked b c).run := by
  refine (Program.Passes.lift (b.tryAdd_passes c)).attempt_bind fun _ tried _ => ?_
  obtain ⟨after, result⟩ := tried
  exact (Program.passes_part _).attempt_bind fun _ admission _ => Program.passes_pure _

/-- A batch is steady while it is filled. -/
theorem tryAdd_steady (steady : b.Steady)
    (run : (tryAdd b c).run.Runs trace (.ok (after, admission))) : after.Steady := by
  obtain ⟨_, _, ⟨tried, result⟩, -, first, rest⟩ := Program.runs_lift_bind.mp run
  obtain ⟨_, _, _, -, -, done⟩ := Program.runs_attempt_bind_ok.mp rest
  obtain ⟨-, same⟩ := Program.runs_attempt_pure.mp done
  cases same
  exact (Batch.Step.tried first).steady steady

theorem steady_emptyBatch (s : Save) : s.emptyBatch.Steady :=
  Script.steady_started "" []

theorem sendWhole_passes (steady : b.Steady) (manner : Manner) (o : SaveOutcome) :
    (sendWhole manner b o).run.Passes (sendWholeChecked manner b o).run := by
  refine (steady.execute_passes manner).attempt_bind fun _ executed _ => ?_
  cases o.absorb executed <;> exact Program.passes_pure _

/-- A batch for one command has room for its first one. -/
theorem tryAdd_singular {c' : Command} :
    ¬ (tryAdd { s.emptyBatch with limits := .singular } c).run.Runs trace
      (.ok (after, .full c')) := by
  intro run
  have single : { s.emptyBatch with limits := .singular } = s.holding .singular "" [] := rfl
  rw [single] at run
  rcases tryAdd_runs run with ⟨_, ⟨⟩, -⟩ | ⟨_, ⟨⟩, -⟩ | ⟨_, -, -, -, trial⟩
  have valid : c.validate = .ok () := by
    cases trial with
    | full _ judged => cases judged <;> assumption
  obtain ⟨_, -, ⟨⟩⟩ := trial_singular valid trial

theorem sendSingle_passes (manner : Manner) (o : SaveOutcome) (c : Command) :
    (s.sendSingle manner o c).run.Passes (s.sendSingleChecked manner o c).run := by
  refine (tryAdd_passes _ c).attempt_bind fun _ tried run => ?_
  obtain ⟨single, _ | c'⟩ := tried
  · have steady : Batch.Steady { s.emptyBatch with limits := .singular } := s.steady_emptyBatch
    exact sendWhole_passes (tryAdd_steady steady run) manner o
  · exact absurd run tryAdd_singular

theorem send_passes (steady : b.Steady) (manner : Manner) (o : SaveOutcome) :
    (s.send manner b o).run.Passes (s.sendChecked manner b o).run := by
  refine (Program.passes_lift _).attempt_bind fun _ _ _ => ?_
  split
  · exact Program.passes_foldlM (sendSingle_passes manner) b.commands o
  · exact sendWhole_passes steady manner o

theorem startBatch_passes (c : Command) :
    (s.startBatch c).run.Passes (s.startBatchChecked c).run := by
  refine (tryAdd_passes _ c).attempt_bind fun _ tried _ => ?_
  obtain ⟨b, _ | c'⟩ := tried
  · exact Program.passes_pure _
  · exact Program.passes_part _

theorem startBatch_steady (run : (s.startBatch c).run.Runs trace (.ok b)) : b.Steady := by
  obtain ⟨_, _, ⟨tried, admission⟩, -, first, rest⟩ := Program.runs_attempt_bind_ok.mp run
  have steady := tryAdd_steady s.steady_emptyBatch first
  cases admission with
  | added =>
    obtain ⟨-, same⟩ := Program.runs_attempt_pure.mp rest
    cases same
    exact steady
  | full c' => cases (Program.runs_done_iff.mp rest).2

/-- The induction is on the commands still to be drawn; the batch that is being filled is steady. -/
theorem fill_passes (steady : b.Steady) (manner : Manner) (o : SaveOutcome)
    (commands : List Command) :
    (s.fill manner o b commands).run.Passes (s.fillChecked manner o b commands).run := by
  induction commands generalizing o b with
  | nil =>
    refine (Program.passes_lift _).attempt_bind fun _ _ _ => ?_
    split
    · exact Program.passes_pure _
    · exact send_passes steady manner o
  | cons c rest ih =>
    refine (Program.passes_lift _).attempt_bind fun _ _ _ => ?_
    refine (tryAdd_passes b c).attempt_bind fun _ tried run => ?_
    obtain ⟨after, _ | c'⟩ := tried
    · exact ih (tryAdd_steady steady run) o
    · have steady := tryAdd_steady steady run
      dsimp only
      split
      · exact Program.passes_part _
      · refine (send_passes steady manner o).attempt_bind fun _ o' _ => ?_
        refine (startBatch_passes c').attempt_bind fun _ next started => ?_
        exact ih (startBatch_steady started) o'

/-- With all of its checks a save is the same program, and it lapses in no run: it reports no broken
rule of its own, takes commands and text from where there are some, and takes off the count only
what has been counted. -/
theorem run_never_lapses (s : Save) (manner : Manner) (commands : List Command) :
    (s.runChecked manner commands).run = Except.ok <$> s.run manner commands :=
  fill_passes s.steady_emptyBatch manner {} commands

end Save

end BatchedSave
