import BatchedSave.Proofs.Batch.History
import BatchedSave.Proofs.Program.Accounts
import BatchedSave.Proofs.Program.Surroundings
import BatchedSave.Proofs.RoundTrip.Secrecy
import BatchedSave.Saver

/-!
# Saves keep values to themselves

Two saves of commands that differ in the values of columns only, in surroundings that look at no
value, are twins. What they log reads the same and they end in the same way: no value of a column,
a parameter or a row of generated values shows in a log entry or in an error. Limits of the caller's
own are given the commands with their values, so they have to keep these to themselves.
-/
namespace BatchedSave

open Program

variable {k : Reading}

def Admission.masked : Admission → Admission
  | added => added
  | full c => .full c.masked

/-- Both commands were added, or both were handed back. -/
theorem Admission.both {admission admission' : Admission}
    (same : admission.masked = admission'.masked) :
    (admission = .added ∧ admission' = .added) ∨
      ∃ c c', admission = .full c ∧ admission' = .full c' ∧ c.masked = c'.masked := by
  cases admission with
  | added =>
    cases admission' with
    | added => exact .inl ⟨rfl, rfl⟩
    | full c' => cases same
  | full c =>
    cases admission' with
    | added => cases same
    | full c' =>
      simp only [masked, full.injEq] at same
      exact .inr ⟨c, c', rfl, rfl, same⟩

def SaveOutcome.masked (o : SaveOutcome) : SaveOutcome :=
  { o with commands := o.commands.map (·.masked) }

/-- Limits that answer without looking at a value. -/
def Limits.Blind : Limits → Prop
  | policy p => (∀ view c, p.mayAdd view.masked c.masked = p.mayAdd view c) ∧
      ∀ view, p.accepts view.masked = p.accepts view
  | consulted => True

namespace Limits

theorem masked_length (view : BatchView) :
    view.masked.commands.length = view.commands.length := List.length_map _

theorem caps_blind (maxCommands maxParameters : Nat) : (caps maxCommands maxParameters).Blind := by
  refine ⟨fun view c => ?_, fun view => ?_⟩
  · dsimp only
    rw [masked_length]
  · dsimp only
    rw [masked_length]
    rfl

/-- The limits of a configuration look at no value. -/
theorem ofConfig_blind (c : Config) : (ofConfig c).Blind :=
  caps_blind _ _

theorem singular_blind : singular.Blind := by
  refine ⟨fun view c => ?_, fun view => ?_⟩
  · dsimp only
    rw [masked_length]
  · dsimp only
    rw [masked_length]

/-- Limits on the length of texts, by which a longer one is quoted in the error. They look at values
and tell them. -/
def quoting (longest : Nat) : Limits :=
  policy {
    accepts := fun view =>
      let values := view.commands.flatMap fun c => c.columns.map (·.value)
      let long := values.find? fun v => match v with
        | .text s => longest < s.length
        | _ => false
      match long with
      | some v => .error ⟨.unsupported, .batch, "text too long: " ++ v.display, .unclassified⟩
      | none => .ok true }

theorem mayAdd_twins {limits : Limits} (blind : limits.Blind) {view view' : BatchView}
    {c c' : Command} (views : view.masked = view'.masked) (same : c.masked = c'.masked) :
    Twins (fun k' admits admits' => k = k' ∧ admits = admits') k
      (limits.mayAdd view c) (limits.mayAdd view' c') := by
  cases limits with
  | policy p =>
    refine .done ⟨rfl, ?_⟩
    rw [← blind.1, views, same, blind.1]
  | consulted =>
    have masked : (Request.mayAdd view c).masked = (Request.mayAdd view' c').masked := by
      rw [Request.masked, Request.masked, views, same]
    exact twins_request masked fun _ _ told => ⟨rfl, eq_of_heq (told.same rfl)⟩

theorem accepts_twins {limits : Limits} (blind : limits.Blind) {view view' : BatchView}
    (views : view.masked = view'.masked) :
    Twins (fun k' verdict verdict' => k = k' ∧ verdict = verdict') k
      (limits.accepts view) (limits.accepts view') := by
  cases limits with
  | policy p =>
    refine .done ⟨rfl, ?_⟩
    rw [← blind.2, views, blind.2]
  | consulted =>
    have masked : (Request.accepts view).masked = (Request.accepts view').masked :=
      congrArg Request.accepts views
    exact twins_request masked fun _ _ told => ⟨rfl, eq_of_heq (told.same rfl)⟩

end Limits

/-- Two batches being filled that differ in the values of columns only. -/
structure Batch.Veiled (b b' : Batch) : Prop where
  same : b.masked = b'.masked
  unwritten : b.script.rendered = 0
  blind : b.limits.Blind
  discreet : b.options.sensitive = false

namespace Batch

variable {b b' : Batch} {c c' : Command}

namespace Veiled

theorem limits (veiled : b.Veiled b') : b.limits = b'.limits :=
  (masked_eq_iff.mp veiled.same).2.1

theorem parameterCount (veiled : b.Veiled b') : b.parameterCount = b'.parameterCount :=
  (masked_eq_iff.mp veiled.same).2.2.2.2.1

theorem view (veiled : b.Veiled b') : b.view.masked = b'.view.masked := by
  obtain ⟨-, -, -, commands, parameters, -⟩ := masked_eq_iff.mp veiled.same
  simp only [BatchView.masked, Batch.view, commands, parameters]

theorem push (veiled : b.Veiled b') (same : c.masked = c'.masked) :
    (b.push c).Veiled (b'.push c') := by
  obtain ⟨placeholders, limits, options, commands, parameters, scripts⟩ :=
    masked_eq_iff.mp veiled.same
  refine ⟨masked_eq_iff.mpr ⟨placeholders, limits, options, ?_, ?_, scripts⟩, veiled.unwritten,
    veiled.blind, veiled.discreet⟩
  · simp only [Batch.push, List.map_append, List.map_singleton, commands, same]
  · simp only [Batch.push, parameters, Command.parameterCount_congr same]

/-- A script that is started anew for both. -/
theorem started (veiled : b.Veiled b') (header : String) :
    Veiled { b with script := { text := header } } { b' with script := { text := header } } := by
  obtain ⟨placeholders, limits, options, commands, parameters, -⟩ := masked_eq_iff.mp veiled.same
  exact ⟨masked_eq_iff.mpr ⟨placeholders, limits, options, commands, parameters, rfl⟩, rfl,
    veiled.blind, veiled.discreet⟩

end Veiled

theorem full_twins (veiled : b.Veiled b') (same : c.masked = c'.masked) :
    Twins (fun k' admission admission' => k = k' ∧ admission.masked = admission'.masked) k
      (b.full c) (b'.full c') := by
  have count := length_congr veiled.same
  have entry : Log.Entry.batchFull b.commands.length b.parameterCount =
      .batchFull b'.commands.length b'.parameterCount := by
    rw [count, veiled.parameterCount]
  refine (twins_log (congrArg Log.Entry.masked entry)).bind fun _ _ _ kept => ?_
  subst kept
  refine (twins_record (congrArg Metrics.Event.batchFull count)).bind fun _ _ _ kept => ?_
  exact .done ⟨kept, congrArg Admission.full same⟩

theorem prepared_twins (veiled : b.Veiled b') :
    Twins (fun k' ready ready' => k = k' ∧ ready.Veiled ready') k b.prepared b'.prepared := by
  unfold prepared
  rw [← isEmpty_congr veiled.same]
  split
  · have asked := twins_ask (k := k) (r := .header) (fun _ => rfl) fun _ => rfl
    have started : Twins (fun k' script script' => k = k' ∧ script = script' ∧
        ∃ header, script = { text := header }) k Script.start Script.start :=
      asked.bind fun _ header _ ⟨kept, both⟩ => .done ⟨kept, by rw [both], header, rfl⟩
    refine started.bind fun _ script _ ⟨kept, both, header, opened⟩ => ?_
    subst kept both opened
    exact .done ⟨rfl, veiled.started header⟩
  · exact .done ⟨rfl, veiled⟩

/-- What a command comes to that has been tried on two batches, the reading being `k` before. -/
def TriedAlike (k k' : Reading) (tried tried' : Batch × Except Error Admission) : Prop :=
  k = k' ∧ tried.1.Veiled tried'.1 ∧
    Agree (fun _ admission admission' => admission.masked = admission'.masked) k' tried.2 tried'.2

theorem handBack_twins (veiled : b.Veiled b') (same : c.masked = c'.masked) :
    Twins (TriedAlike k) k (do return (b, .ok (← b.full c))) (do return (b', .ok (← b'.full c'))) :=
  (full_twins veiled same).bind fun _ _ _ ⟨kept, both⟩ => .done ⟨kept, veiled, .ok both⟩

theorem tryAdd_twins (veiled : b.Veiled b') (same : c.masked = c'.masked) :
    Twins (TriedAlike k) k (b.tryAdd c) (b'.tryAdd c') := by
  unfold tryAdd
  rw [← Command.validate_congr same]
  cases c.validate with
  | error refusal => exact .done ⟨rfl, veiled, .error _⟩
  | ok _ =>
    refine (prepared_twins veiled).bind fun _ ready ready' ⟨kept, veiled⟩ => ?_
    subst kept
    dsimp only
    rw [← veiled.limits]
    have tried := Limits.mayAdd_twins (k := k) veiled.blind veiled.view same
    refine tried.bind fun _ admits _ ⟨kept, both⟩ => ?_
    subst kept both
    cases admits with
    | false => exact handBack_twins veiled same
    | true =>
      have grown := veiled.push same
      have checked := Limits.accepts_twins (k := k) veiled.blind grown.view
      refine checked.bind fun _ verdict _ ⟨kept, both⟩ => ?_
      subst kept both
      rcases verdict with e | fits
      · simp only [pop_push]
        exact .done ⟨rfl, veiled, .error e⟩
      · cases fits with
        | true => exact .done ⟨rfl, grown, .ok rfl⟩
        | false =>
          simp only [pop_push]
          exact handBack_twins veiled same

end Batch

namespace Save

variable {s : Save} {c c' : Command}

theorem tryAdd_twins {b b' : Batch} (veiled : b.Veiled b') (same : c.masked = c'.masked) :
    Twins (Agree fun k' tried tried' => k = k' ∧ tried.1.Veiled tried'.1 ∧
        tried.2.masked = tried'.2.masked) k
      (tryAdd b c).run (tryAdd b' c').run := by
  refine (b.tryAdd_twins veiled same).lift.attempt_bind fun _ tried tried' holds => ?_
  obtain ⟨after, result⟩ := tried
  obtain ⟨after', result'⟩ := tried'
  obtain ⟨rfl, veiled, agree⟩ := holds
  dsimp only at veiled agree
  cases agree with
  | error e => exact .done (.error _)
  | ok both => exact .done (.ok ⟨rfl, veiled, both⟩)

/-- Two outcomes of a save that differ in values only, once no statement is being written. -/
def Outcomes (k : Reading) (o o' : SaveOutcome) : Prop :=
  k.written = [] ∧ o.masked = o'.masked

theorem absorb_agree (fresh : k.written = []) {o o' : SaveOutcome} (outcomes : o.masked = o'.masked)
    {e e' : Executed} (executed : e.masked = e'.masked) :
    Agree Outcomes k (o.absorb e) (o'.absorb e') := by
  simp only [SaveOutcome.masked, SaveOutcome.mk.injEq] at outcomes
  simp only [Executed.masked, Executed.mk.injEq] at executed
  obtain ⟨commands, total, batches⟩ := outcomes
  have rows : e.total = e'.total := by rw [Executed.total, Executed.total, executed.2]
  unfold SaveOutcome.absorb
  rw [← total, ← rows]
  dsimp only
  split
  · refine .ok ⟨fresh, ?_⟩
    simp only [SaveOutcome.masked, List.map_append, commands, executed.1, batches]
  · exact .error _

theorem sendWhole_twins (manner : Manner) {b b' : Batch} (veiled : b.Veiled b')
    {o o' : SaveOutcome} (outcomes : Outcomes k o o') :
    Twins (Agree Outcomes) k (sendWhole manner b o).run (sendWhole manner b' o').run := by
  have executed : Twins _ k (ExceptT.mk (b.execute manner)).run
      (ExceptT.mk (b'.execute manner)).run :=
    Batch.execute_twins manner veiled.same veiled.unwritten veiled.discreet outcomes.1
  refine executed.attempt_bind fun k' e e' ⟨fresh, both⟩ => ?_
  exact twins_liftExcept (absorb_agree fresh outcomes.2 both)

theorem emptyBatch_veiled (blind : s.limits.Blind) (discreet : s.options.sensitive = false) :
    s.emptyBatch.Veiled s.emptyBatch :=
  ⟨rfl, rfl, blind, discreet⟩

theorem sendSingle_twins (manner : Manner) (discreet : s.options.sensitive = false)
    (same : c.masked = c'.masked) {o o' : SaveOutcome} (outcomes : Outcomes k o o') :
    Twins (Agree Outcomes) k (s.sendSingle manner o c).run (s.sendSingle manner o' c').run := by
  have single : Batch.Veiled { s.emptyBatch with limits := .singular }
      { s.emptyBatch with limits := .singular } := ⟨rfl, rfl, Limits.singular_blind, discreet⟩
  refine (tryAdd_twins single same).attempt_bind fun _ tried tried' ⟨kept, veiled, both⟩ => ?_
  subst kept
  obtain ⟨b, admission⟩ := tried
  obtain ⟨b', admission'⟩ := tried'
  rcases Admission.both both with ⟨rfl, rfl⟩ | ⟨c, c', rfl, rfl, -⟩
  · exact sendWhole_twins manner veiled outcomes
  · exact .done (.error _)

theorem send_twins (manner : Manner) (discreet : s.options.sensitive = false) {b b' : Batch}
    (veiled : b.Veiled b') {o o' : SaveOutcome} (outcomes : Outcomes k o o') :
    Twins (Agree Outcomes) k (s.send manner b o).run (s.send manner b' o').run := by
  have count := Batch.length_congr veiled.same
  have entry : Log.Entry.executingBatch b.commands.length b.parameterCount =
      .executingBatch b'.commands.length b'.parameterCount := by
    rw [count, veiled.parameterCount]
  have logged := twins_log (k := k) (congrArg Log.Entry.masked entry)
  refine logged.lift.attempt_bind fun _ _ _ kept => ?_
  subst kept
  have splits : s.splits b = s.splits b' := by rw [Save.splits, Save.splits, count]
  rw [splits]
  split
  · have commands := (Batch.masked_eq_iff.mp veiled.same).2.2.2.1
    refine twins_foldlM commands (fun _ _ _ c c' same outcomes => ?_) outcomes
    exact sendSingle_twins manner discreet same outcomes
  · exact sendWhole_twins manner veiled outcomes

theorem oversized_twins {α : Type} {Q : Reading → α → α → Prop} (same : c.masked = c'.masked) :
    Twins (Agree Q) k (Course.ofResult (.error (oversized c)) : BatchedSave.Course α).run
      (Course.ofResult (.error (oversized c'))).run := by
  rw [oversized, oversized, (Command.heading_congr same).1]
  exact .done (.error _)

theorem startBatch_twins (blind : s.limits.Blind) (discreet : s.options.sensitive = false)
    (same : c.masked = c'.masked) :
    Twins (Agree fun k' b b' => k = k' ∧ b.Veiled b') k
      (s.startBatch c).run (s.startBatch c').run := by
  have empty := emptyBatch_veiled blind discreet
  refine (tryAdd_twins empty same).attempt_bind fun _ tried tried' ⟨kept, veiled, both⟩ => ?_
  subst kept
  obtain ⟨b, admission⟩ := tried
  obtain ⟨b', admission'⟩ := tried'
  rcases Admission.both both with ⟨rfl, rfl⟩ | ⟨c, c', rfl, rfl, same⟩
  · exact .done (.ok ⟨rfl, veiled⟩)
  · exact oversized_twins same

/-- Filling a batch. The induction is on the commands still to be drawn; the batches being filled
and the outcomes so far differ in values only all along. -/
theorem fill_twins (manner : Manner) (blind : s.limits.Blind)
    (discreet : s.options.sensitive = false) {commands commands' : List Command}
    (same : commands.map (·.masked) = commands'.map (·.masked)) {b b' : Batch}
    (veiled : b.Veiled b') {o o' : SaveOutcome} (outcomes : Outcomes k o o') :
    Twins (Agree Outcomes) k (s.fill manner o b commands).run
      (s.fill manner o' b' commands').run := by
  induction commands generalizing commands' k b b' o o' with
  | nil =>
    obtain rfl := List.map_eq_nil_iff.mp same.symm
    have drawn : Twins _ k (request (.pull none)) (request (.pull none)) :=
      twins_tell rfl fun _ => rfl
    refine drawn.lift.attempt_bind fun _ _ _ kept => ?_
    subst kept
    rw [Batch.isEmpty_congr veiled.same]
    split
    · exact .done (.ok outcomes)
    · exact send_twins manner discreet veiled outcomes
  | cons c rest ih =>
    obtain ⟨c', rest', rfl, first, others⟩ := List.map_eq_cons_iff.mp same.symm
    have masked : (Request.pull (some c)).masked = (Request.pull (some c')).masked :=
      congrArg (fun c => Request.pull (some c)) first.symm
    have drawn : Twins _ k (request (.pull (some c))) (request (.pull (some c'))) :=
      twins_tell masked fun _ => rfl
    refine drawn.lift.attempt_bind fun _ _ _ kept => ?_
    subst kept
    refine (tryAdd_twins veiled first.symm).attempt_bind fun _ tried tried' alike => ?_
    obtain ⟨rfl, veiled, both⟩ := alike
    obtain ⟨b, admission⟩ := tried
    obtain ⟨b', admission'⟩ := tried'
    rcases Admission.both both with ⟨rfl, rfl⟩ | ⟨c, c', rfl, rfl, same⟩
    · exact ih others.symm veiled outcomes
    · dsimp only at veiled ⊢
      rw [← Batch.isEmpty_congr veiled.same]
      split
      · exact oversized_twins same
      · refine (send_twins manner discreet veiled outcomes).attempt_bind fun _ o o' outcomes => ?_
        refine (startBatch_twins blind discreet same).attempt_bind fun _ b b' ⟨kept, veiled⟩ => ?_
        subst kept
        exact ih others.symm veiled outcomes

/-- Saves of commands that differ in values only are twins. -/
theorem run_twins (manner : Manner) (blind : s.limits.Blind)
    (discreet : s.options.sensitive = false) {commands commands' : List Command}
    (same : commands.map (·.masked) = commands'.map (·.masked)) :
    Twins (Agree Outcomes) {} (s.run manner commands) (s.run manner commands') :=
  fill_twins manner blind discreet same (emptyBatch_veiled blind discreet) ⟨rfl, rfl⟩

/-- Two saves of commands that differ in the values of their columns only, with limits that look at
no value and without leave to log any. As far as the surroundings answer both alike, but for the
values in rows that the store generates, the two log the same at every level, message and fields,
and they end with the same error or both succeed. -/
theorem run_keeps_secrets {manner : Manner} (blind : s.limits.Blind)
    (discreet : s.options.sensitive = false) {commands commands' : List Command}
    (same : commands.map (·.masked) = commands'.map (·.masked)) {trace trace' : List Exchange}
    {result result' : Except (Abort Error) SaveOutcome}
    (run : (s.run manner commands).Runs trace result)
    (run' : (s.run manner commands').Runs trace' result') (impartial : Impartial {} trace trace') :
    logged trace = logged trace' ∧ failure result = failure result' := by
  obtain ⟨requests, k, agree⟩ := (run_twins manner blind discreet same).runs run run' impartial
  refine ⟨logged_congr requests, ?_⟩
  cases agree with
  | error e => rfl
  | ok _ => rfl

/-- Two inserts of different names, for which the store generates different keys. -/
theorem run_keeps_secrets_of_inserts :
    let A := Surroundings.scripted (Dialect.plain atPlaceholder)
    let save : Save := { limits := .caps 2 9 }
    let saved (name : String) (key : Int64) := (save.run .blocking [.namedInsert name]).play A
      { responses := [.ok [[[.int key]]]] }
    let ann := saved "ann" 7
    let bob := saved "bob" 8
    Impartial {} ann.journal bob.journal ∧ writeBacks ann.journal ≠ writeBacks bob.journal ∧
      logged ann.journal = logged bob.journal ∧ failure ann.result = failure bob.result := by
  intro A save saved ann bob
  have impartial : Impartial {} ann.journal bob.journal := by decide +kernel
  have generated : writeBacks ann.journal ≠ writeBacks bob.journal := by decide +kernel
  have same : [Command.namedInsert "ann"].map (·.masked) =
      [Command.namedInsert "bob"].map (·.masked) := rfl
  exact ⟨impartial, generated, run_keeps_secrets (Limits.caps_blind 2 9) rfl same
    (Program.runs_play A _ _) (Program.runs_play A _ _) impartial⟩

/-- Limits that quote a text make the difference. Two inserts of different names are refused with
different errors, although nothing else in their surroundings looks at a value. -/
theorem run_tells_quoted_names :
    let A := Surroundings.scripted (Dialect.plain atPlaceholder)
    let save : Save := { limits := .quoting 2 }
    let saved (name : String) := (save.run .blocking [.namedInsert name]).play A {}
    let ann := saved "ann"
    let bob := saved "bob"
    save.options.sensitive = false ∧
      [Command.namedInsert "ann"].map (·.masked) = [Command.namedInsert "bob"].map (·.masked) ∧
      Impartial {} ann.journal bob.journal ∧ failure ann.result ≠ failure bob.result := by
  intro A save saved ann bob
  have impartial : Impartial {} ann.journal bob.journal := by decide +kernel
  exact ⟨rfl, rfl, impartial, by decide +kernel⟩

end Save

namespace Saver

/-- Nor does a saver tell values whose configuration does not allow it; its limits are caps. -/
theorem save_tells_no_value {s : Saver} {manner : Manner}
    (discreet : s.config.logging.sensitiveDataLogging = false) {commands commands' : List Command}
    (same : commands.map (·.masked) = commands'.map (·.masked)) {trace trace' : List Exchange}
    {result result' : Except (Abort SaveError) SaveOutcome}
    (run : (s.save manner commands).Runs trace result)
    (run' : (s.save manner commands').Runs trace' result') (impartial : Impartial {} trace trace') :
    logged trace = logged trace' ∧ failure result = failure result' := by
  have blind : s.plan.limits.Blind := Limits.ofConfig_blind s.config
  have saved := Save.run_twins manner blind discreet same
  have told : Twins (fun _ result result' => failure result = failure result') {}
      (s.save manner commands) (s.save manner commands') := by
    refine saved.bind fun _ _ _ agree => ?_
    cases agree with
    | error e => exact .done rfl
    | ok _ => exact .done rfl
  obtain ⟨requests, _, ends⟩ := told.runs run run' impartial
  exact ⟨logged_congr requests, ends⟩

end Saver

end BatchedSave
