import BatchedSave.Proofs.Program.Twins
import BatchedSave.Proofs.Reconciliation.OneWalk

/-!
# Reading results without looking at values

Two walks over the results of commands that differ in the values of columns only are twins. The two
may part in the values they read for columns that the store generates; these go to the read columns
and the tracked entries and nowhere else. A row that is a count is the same in both, so that a
verdict never tells a value: the one text that would show generated values reports a result that is
never read.
-/
namespace BatchedSave

open Program

variable {k : Reading}

def Applied.masked (a : Applied) : Applied :=
  { a with command := a.command.masked }

def Reconciliation.masked (r : Reconciliation) : Reconciliation :=
  ⟨r.applied.map (·.masked), r.pending.map (·.masked)⟩

/-! ### Reading results -/

section Reading

theorem readValues_twins (manner : Manner) (ordinal count : Nat) :
    Twins (Agree fun k' values values' =>
        k = k' ∧ values.length = values'.length ∧ (k.Generates ∨ values = values')) k
      (manner.readValues ordinal count).run (manner.readValues ordinal count).run := by
  induction count generalizing ordinal with
  | zero => exact twins_pure ⟨rfl, rfl, .inr rfl⟩
  | succ count ih =>
    refine (twins_value manner ordinal).attempt_bind fun _ value value' ⟨kept, first⟩ => ?_
    subst kept
    refine (ih (ordinal + 1)).attempt_bind fun _ values values' ⟨kept, lengths, rest⟩ => ?_
    subst kept
    refine twins_pure ⟨rfl, by rw [List.length_cons, List.length_cons, lengths], ?_⟩
    rcases first with generates | rfl
    · exact .inl generates
    · exact rest.imp_right (congrArg _)

/-- The reading once the result set of the command at `index` has been entered. -/
def Reading.entered (k : Reading) (index : Nat) : Reading :=
  if 0 < index then { k with ahead := k.ahead.tail } else k

@[simp] theorem Reading.entered_written (k : Reading) (index : Nat) :
    (k.entered index).written = k.written := by
  unfold Reading.entered
  split <;> rfl

/-- The result set behind that of a command is the next command's. -/
theorem Reading.entered_succ (k : Reading) (index : Nat) :
    (k.entered (index + 1)).ahead = k.ahead.tail := by
  rw [Reading.entered, if_pos index.succ_pos]

theorem enterSet_twins (manner : Manner) (index : Nat) :
    Twins (Agree fun k' _ _ => k.entered index = k') k
      (manner.enterSet index).run (manner.enterSet index).run := by
  unfold Manner.enterSet Reading.entered
  split
  · have called := twins_call (k := k) manner .reader (.reader .nextSet) fun _ => rfl
    refine called.attempt_bind fun _ moved _ ⟨heard, both⟩ => ?_
    subst heard both
    cases moved with
    | false => exact twins_throw _
    | true => exact twins_pure rfl
  · exact twins_pure rfl

theorem finish_twins (manner : Manner) (index : Nat) :
    Twins (Agree fun k' _ _ => k.written = k'.written) k
      (manner.finish index).run (manner.finish index).run := by
  have called := twins_call (k := k) manner .reader (.reader .nextSet) fun _ => rfl
  refine called.attempt_bind fun _ more _ ⟨heard, both⟩ => ?_
  subst heard both
  cases more with
  | false => exact twins_pure rfl
  | true => exact twins_throw _

/-- While a command's result is read, generated values are those of its read columns. -/
theorem Reading.Generates.reads {c : Command} {rest : List Command} (generates : k.Generates)
    (reading : k.ahead = c :: rest) : c.readCount ≠ 0 := by
  obtain ⟨_, first, reads⟩ := generates
  rw [reading] at first
  cases first
  exact reads

end Reading

namespace Command

variable {c c' : Command}

/-- Two outcomes of a command that are the same, or hold as many values generated for it. -/
def Outcomes (c : Command) (outcome outcome' : RowOutcome) : Prop :=
  outcome = outcome' ∨ c.readCount ≠ 0 ∧ ∃ values values', outcome = .generated values ∧
    outcome' = .generated values' ∧ values.length = values'.length

theorem rowOutcome_congr (same : c.masked = c'.masked) (index : Nat) (values : List Value) :
    c.rowOutcome index values = c'.rowOutcome index values := by
  rw [rowOutcome, rowOutcome, ofCommand_congr same]

theorem ofCommand_generated (reads : c.readCount ≠ 0) :
    ResultShape.ofCommand c = .generated c.readCount := by
  unfold ResultShape.ofCommand
  split
  next none => exact absurd none reads
  next => rfl

theorem leaveRowIn_twins (manner : Manner) (same : c.masked = c'.masked) (index : Nat)
    {values values' : List Value} (lengths : values.length = values'.length)
    (told : c.readCount ≠ 0 ∨ values = values') :
    Twins (Agree fun k' outcome outcome' => k = k' ∧ c.Outcomes outcome outcome') k
      (c.leaveRowIn manner index values).run (c'.leaveRowIn manner index values').run := by
  have called := twins_call (k := k) manner .reader (.reader .nextRow) fun _ => rfl
  refine called.attempt_bind fun _ more _ ⟨heard, both⟩ => ?_
  subst heard both
  cases more with
  | true => exact twins_throw _
  | false =>
    refine twins_liftExcept ?_
    rcases told with reads | rfl
    · have shape := ofCommand_generated reads
      rw [rowOutcome, rowOutcome, ← ofCommand_congr same, shape]
      exact .ok ⟨rfl, .inr ⟨reads, values, values', rfl, rfl, lengths⟩⟩
    · rw [rowOutcome_congr same]
      exact agree_self fun _ => ⟨rfl, .inl rfl⟩

theorem readRowIn_twins (manner : Manner) (same : c.masked = c'.masked) (index : Nat)
    (reading : k.Generates → c.readCount ≠ 0) :
    Twins (Agree fun k' outcome outcome' => k = k' ∧ c.Outcomes outcome outcome') k
      (c.readRowIn manner index).run (c'.readRowIn manner index).run := by
  have width (found : Nat) : c.checkWidth index found = c'.checkWidth index found := by
    rw [checkWidth, checkWidth, ofCommand_congr same]
  have asked := twins_ask (k := k) (r := .fieldCount) (fun _ => rfl) fun _ => rfl
  refine asked.lift.attempt_bind fun _ found _ ⟨kept, both⟩ => ?_
  subst kept both
  have checked : Twins (Agree fun k' _ _ => k = k') k
      (liftExcept (c.checkWidth index found) : Attempt Unit).run
      (liftExcept (c'.checkWidth index found) : Attempt Unit).run := by
    rw [width]
    exact twins_liftExcept (agree_self fun _ => rfl)
  refine checked.attempt_bind fun _ _ _ kept => ?_
  subst kept
  have read := readValues_twins (k := k) manner 0 (ResultShape.ofCommand c).fieldCount
  rw [← ofCommand_congr same]
  refine read.attempt_bind fun _ values values' ⟨kept, lengths, told⟩ => ?_
  subst kept
  exact leaveRowIn_twins manner same index lengths (told.imp_left reading)

theorem readOutcomeIn_twins (manner : Manner) (same : c.masked = c'.masked) (index : Nat)
    (reading : k.Generates → c.readCount ≠ 0) :
    Twins (Agree fun k' outcome outcome' => k = k' ∧ c.Outcomes outcome outcome') k
      (c.readOutcomeIn manner index).run (c'.readOutcomeIn manner index).run := by
  have called := twins_call (k := k) manner .reader (.reader .nextRow) fun _ => rfl
  refine called.attempt_bind fun _ entered _ ⟨heard, both⟩ => ?_
  subst heard both
  cases entered with
  | true => exact readRowIn_twins manner same index reading
  | false => exact twins_pure ⟨rfl, .inl rfl⟩

/-! ### Applying results -/

/-- The columns that are written back, by their names. -/
theorem writtenBack_names {values : List Value} (full : values.length = c.readCount) :
    (c.readColumns.zip values).map (fun pair => pair.1.name) = c.readColumns.map (·.name) := by
  calc (c.readColumns.zip values).map (fun pair => pair.1.name)
      = ((c.readColumns.zip values).map (·.1)).map (·.name) := List.map_map.symm
    _ = c.readColumns.map (·.name) := by rw [List.map_fst_zip (Nat.le_of_eq full.symm)]

theorem applyGenerated_twins (same : c.masked = c'.masked) (index : Nat)
    {values values' : List Value} (lengths : values.length = values'.length) :
    Twins (Agree fun k' d d' => k = k' ∧ d.masked = d'.masked) k
      (c.applyGenerated index values).run (c'.applyGenerated index values').run := by
  have counts := readCount_congr same
  unfold applyGenerated
  by_cases full : values.length = c.readCount
  · have full' : values'.length = c'.readCount := by rw [← lengths, full, counts]
    rw [if_neg (not_not.mpr full), if_neg (not_not.mpr full')]
    have names : (c.readColumns.zip values).map (fun pair => pair.1.name) =
        (c'.readColumns.zip values').map fun pair => pair.1.name := by
      rw [writtenBack_names full, writtenBack_names full', readColumns_congr same]
    obtain ⟨-, -, entry⟩ := heading_congr same
    refine (twins_forM names fun pair pair' name => ?_).attempt_bind fun _ _ _ kept => ?_
    · have masked : (Request.writeBack c.entry pair.1.name pair.2).masked =
          (Request.writeBack c'.entry pair'.1.name pair'.2).masked := by
        rw [Request.masked, Request.masked, entry, name]
      exact (twins_tell masked fun _ => rfl).lift
    · refine twins_pure ⟨kept, ?_⟩
      rw [masked_withGenerated, masked_withGenerated, same]
  · have part' : values'.length ≠ c'.readCount := by rwa [← lengths, ← counts]
    rw [if_pos full, if_pos part', counts, lengths]
    exact twins_throw _

theorem complete_generated_twins (same : c.masked = c'.masked) (index : Nat) {columns : Nat}
    (shape : ResultShape.ofCommand c = .generated columns)
    {values values' : List Value} (lengths : values.length = values'.length) :
    Twins (Agree fun k' a a' => k = k' ∧ a.masked = a'.masked) k
      (c.complete index (.generated values)).run (c'.complete index (.generated values')).run := by
  have shape' := (ofCommand_congr same).symm.trans shape
  simp only [complete, shape, shape']
  refine (applyGenerated_twins same index lengths).attempt_bind fun _ d d' alike => ?_
  obtain ⟨rfl, both⟩ := alike
  obtain ⟨table, kind, -⟩ := heading_congr both
  have event : (.commandApplied d.table d.kind values.length : Metrics.Notice) =
      .commandApplied d'.table d'.kind values'.length := by rw [table, kind, lengths]
  refine (twins_record event).lift.attempt_bind fun _ _ _ kept => ?_
  exact twins_pure ⟨kept, congrArg (Applied.mk · 1) both⟩

theorem complete_twins (same : c.masked = c'.masked) (index : Nat) {outcome outcome' : RowOutcome}
    (agree : c.Outcomes outcome outcome') :
    Twins (Agree fun k' a a' => k = k' ∧ a.masked = a'.masked) k
      (c.complete index outcome).run (c'.complete index outcome').run := by
  rcases agree with rfl | ⟨reads, values, values', rfl, rfl, lengths⟩
  · obtain ⟨table, kind, -⟩ := heading_congr same
    have shapes := ofCommand_congr same
    cases shape : ResultShape.ofCommand c with
    | generated columns =>
      have shape' := shapes.symm.trans shape
      cases outcome with
      | generated values => exact complete_generated_twins same index shape rfl
      | affected rows =>
        simp only [complete, shape, shape']
        exact twins_throw _
      | missing =>
        simp only [complete, shape, shape', ref_congr same]
        exact twins_throw _
    | affectedCount =>
      have shape' := shapes.symm.trans shape
      cases outcome with
      | generated values =>
        -- the message shows the values, but they can differ only where the command has read columns
        simp only [complete, shape, shape']
        exact twins_throw _
      | affected rows =>
        have event : (.commandApplied c.table c.kind 0 : Metrics.Notice) =
            .commandApplied c'.table c'.kind 0 := by rw [table, kind]
        simp only [complete, shape, shape', ref_congr same]
        split
        · refine (twins_record event).lift.attempt_bind fun _ _ _ kept => ?_
          exact twins_pure ⟨kept, congrArg (Applied.mk · rows) same⟩
        · exact twins_throw _
      | missing =>
        simp only [complete, shape, shape']
        exact twins_throw _
  · exact complete_generated_twins same index (ofCommand_generated reads) lengths

theorem reconcileIn_twins (manner : Manner) (same : c.masked = c'.masked) (index : Nat)
    (reading : (k.entered index).Generates → c.readCount ≠ 0) :
    Twins (Agree fun k' a a' => k.entered index = k' ∧ a.masked = a'.masked) k
      (c.reconcileIn manner index).run (c'.reconcileIn manner index).run := by
  refine (enterSet_twins manner index).attempt_bind fun _ _ _ entered => ?_
  subst entered
  have read := readOutcomeIn_twins manner same index reading
  refine read.attempt_bind fun _ outcome outcome' ⟨kept, agree⟩ => ?_
  subst kept
  exact complete_twins same index agree

end Command

namespace Reconciliation

variable {r r' : Reconciliation}

/-- Walks over commands that differ in values only; `k` reads the result of the first one still to
come, or that of the command before it. -/
theorem walkIn_twins (manner : Manner) {applied applied' : List Applied}
    {pending pending' : List Command}
    (done : applied.map (·.masked) = applied'.map (·.masked))
    (toDo : pending.map (·.masked) = pending'.map (·.masked))
    (reading : (k.entered applied.length).ahead = pending) :
    Twins (fun k' walked walked' => walked.1.masked = walked'.1.masked ∧ walked.2 = walked'.2 ∧
        (walked.2 = .ok () → k.written = k'.written)) k
      (walkIn manner applied pending) (walkIn manner applied' pending') := by
  have position : applied.length = applied'.length := by
    simpa only [List.length_map] using congrArg List.length done
  induction pending generalizing applied applied' pending' k with
  | nil =>
    obtain rfl := List.map_eq_nil_iff.mp toDo.symm
    have both : (⟨applied, []⟩ : Reconciliation).masked = masked ⟨applied', []⟩ := by
      rw [masked, masked, done]
    unfold walkIn
    rw [← position]
    refine (finish_twins manner applied.length).bind fun k' finished finished' agree => ?_
    cases agree with
    | error e => exact .done ⟨both, rfl, fun finished => by cases finished⟩
    | ok kept => exact .done ⟨both, rfl, fun _ => kept⟩
  | cons c rest ih =>
    obtain ⟨c', rest', rfl, same, others⟩ := List.map_eq_cons_iff.mp toDo.symm
    have reads (generates : (k.entered applied.length).Generates) : c.readCount ≠ 0 :=
      generates.reads reading
    have reconciled := c.reconcileIn_twins manner same.symm applied.length reads
    unfold walkIn
    rw [← position]
    refine reconciled.bind fun k' result result' agree => ?_
    cases agree with
    | error e =>
      refine .done ⟨?_, rfl, fun finished => by cases finished⟩
      rw [masked, masked, done, toDo]
    | @ok a a' holds =>
      obtain ⟨rfl, both⟩ := holds
      have next : ((k.entered applied.length).entered (applied ++ [a]).length).ahead = rest := by
        rw [List.length_append, List.length_singleton, Reading.entered_succ, reading,
          List.tail_cons]
      have extended : (applied ++ [a]).map (·.masked) = (applied' ++ [a']).map (·.masked) := by
        rw [List.map_append, List.map_append, done, List.map_singleton, List.map_singleton, both]
      have moved : (applied ++ [a]).length = (applied' ++ [a']).length := by
        rw [List.length_append, List.length_append, position, List.length_singleton,
          List.length_singleton]
      simpa only [Reading.entered_written] using ih extended others.symm next moved

/-- Fresh results are read alike in either manner. -/
theorem consumeIn_twins (manner : Manner) {commands commands' : List Command}
    (same : commands.map (·.masked) = commands'.map (·.masked)) (reading : k.ahead = commands) :
    Twins (fun k' walked walked' => walked.1.masked = walked'.1.masked ∧ walked.2 = walked'.2 ∧
        (walked.2 = .ok () → k.written = k'.written)) k
      ((start commands).consumeIn manner) ((start commands').consumeIn manner) := by
  simp only [consumeIn_start, ← bind_pure_comp]
  have started : ([] : List Applied).map (·.masked) = ([] : List Applied).map (·.masked) := rfl
  refine (walkIn_twins manner started same reading).bind fun _ walked walked' agree => ?_
  obtain ⟨both, ends, kept⟩ := agree
  refine .done ⟨both, congrArg (Except.mapError Abort.failed) ends, fun finished => kept ?_⟩
  cases result : walked.2 with
  | error e => simp [widened, result, Except.mapError] at finished
  | ok _ => rfl

end Reconciliation

end BatchedSave
