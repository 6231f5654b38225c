import Mathlib.Data.List.Forall2
import BatchedSave.Proofs.Program.Journal
import BatchedSave.Proofs.Program.Surroundings
import BatchedSave.Proofs.Reconciliation.OneWalk

/-!
# Commands are settled completely or not at all

However a reader answers and whenever the caller gives up, the commands below the position a walk
stops at have received the rows read for them, and the others are untouched. A `Settlement` is the
evidence for one command: the exchanges that are its own, the row these delivered, and the command
after it received that row. The main statement, `consume_settles`, cuts the whole trace into the
settlements of the commands below the position and a rest that writes nothing back.
-/
namespace BatchedSave

namespace Command

/-- The values of a row on their way back to the command's entry. -/
def writeBacks (c : Command) (row : Row) : List WriteBack :=
  (c.readColumns.zip row).map fun (column, value) => (c.entry, column.name, value)

/-- The read columns of `c` have, in declared order, the values of `row` in `after`, which is
otherwise `c`. A row that counts affected rows has no value for any column. -/
structure Received (c : Command) (row : Row) (after : Command) : Prop where
  fields : after = { c with columns := after.columns }
  columns : List.Forall₂ (fun column column' =>
    column' = if column.flags.read then { column with value := column'.value } else column)
    c.columns after.columns
  values : after.readColumns.map (·.value) = row.take c.readCount

theorem assign_unread {column : Column} (unread : column.flags.read = false)
    (columns : List Column) (values : List Value) :
    assign (column :: columns) values = column :: assign columns values := by
  simp [assign, unread]

theorem assign_read {column : Column} (read : column.flags.read = true)
    (columns : List Column) (value : Value) (values : List Value) :
    assign (column :: columns) (value :: values) =
      { column with value := value } :: assign columns values := by
  simp [assign, read]

theorem assign_nil (columns : List Column) : assign columns [] = columns := by
  induction columns with
  | nil => rfl
  | cons column columns ih =>
    cases read : column.flags.read with
    | false => rw [assign_unread read, ih]
    | true => simp [assign, read]

theorem assign_columns (columns : List Column) (values : List Value) :
    List.Forall₂ (fun column column' =>
      column' = if column.flags.read then { column with value := column'.value } else column)
      columns (assign columns values) := by
  induction columns generalizing values with
  | nil => exact .nil
  | cons column columns ih =>
    cases read : column.flags.read with
    | false =>
      rw [assign_unread read]
      exact .cons (by simp [read]) (ih values)
    | true =>
      cases values with
      | nil =>
        rw [assign_nil]
        exact List.forall₂_same.mpr fun column _ => by split <;> rfl
      | cons value values =>
        rw [assign_read read]
        exact .cons (by simp [read]) (ih values)

theorem assign_values (columns : List Column) (values : List Value)
    (enough : values.length = (columns.filter (·.flags.read)).length) :
    ((assign columns values).filter (·.flags.read)).map (·.value) = values := by
  induction columns generalizing values with
  | nil => simpa [assign, eq_comm] using enough
  | cons column columns ih =>
    cases read : column.flags.read with
    | false =>
      rw [assign_unread read, List.filter_cons_of_neg (by simp [read])]
      exact ih values (by simpa [read] using enough)
    | true =>
      cases values with
      | nil => simp [read] at enough
      | cons value values =>
        rw [assign_read read, List.filter_cons_of_pos (by exact read), List.map_cons]
        rw [ih values (by simpa [read] using enough)]

/-- Assigning a full row leaves everything but the read columns' values as it was. -/
theorem received_withGenerated (c : Command) (row : Row) (full : row.length = c.readCount) :
    c.Received row (c.withGenerated row) where
  fields := rfl
  columns := assign_columns c.columns row
  values := by
    rw [← full, List.take_length]
    exact assign_values c.columns row full

/-- A command without read columns receives a count and stays as it is. -/
theorem received_count (c : Command) (row : Row) (counted : c.readCount = 0) :
    c.Received row c where
  fields := rfl
  columns := List.forall₂_same.mpr fun column _ => by split <;> rfl
  values := by
    have none : c.readColumns = [] := List.length_eq_zero_iff.mp counted
    simp [none, counted]

theorem ofCommand_eq_affectedCount_iff {c : Command} :
    ResultShape.ofCommand c = .affectedCount ↔ c.readCount = 0 := by
  unfold ResultShape.ofCommand
  split
  next counts => simp [counts]
  next reads => simpa using reads

/-- The rows a command affected, going by the row that was read for it: one row of generated values
was written by one changed row, any other row is a count. -/
def affectedBy (c : Command) (row : Row) : Nat :=
  if c.readCount = 0 then ((row.getLast?.getD .null).rowCount?).getD 0 else 1

end Command

/-- One command and what became of it: the exchanges made for it, the row they delivered, which
affected something, and the command after it received the row. -/
structure Settlement where
  before : Command
  row : Row
  exchanges : List Exchange
  after : Command
  width : row.length = (ResultShape.ofCommand before).fieldCount
  delivered : deliveries exchanges = row.zipIdx
  written : writeBacks exchanges = before.writeBacks row
  received : before.Received row after
  affected : 0 < before.affectedBy row

/-- The command after its settlement, with the rows it affected. -/
def Settlement.applied (s : Settlement) : Applied :=
  ⟨s.after, s.before.affectedBy s.row⟩

/-- A request by which results are read. -/
def Request.OfReader : Request → Prop
  | .store (.reader _) | .await (.reader _) | .cancelled | .fieldCount => True
  | _ => False

/-! ### Reading delivers the row and writes nothing back -/

section Reading

variable {manner : Manner} {c : Command} {index : Nat} {trace : List Exchange}

theorem call_asks (call : ReaderCall) :
    (manner.perform .reader (.reader call)).run.Asks Request.OfReader :=
  Program.asks_perform manner .reader (.reader call) trivial trivial trivial

theorem readValues_asks (ordinal count : Nat) :
    (manner.readValues ordinal count).run.Asks Request.OfReader := by
  induction count generalizing ordinal with
  | zero => trivial
  | succ count ih =>
    exact (call_asks _).attempt_bind fun _ => (ih (ordinal + 1)).attempt_bind fun _ => trivial

theorem leaveRowIn_asks (values : List Value) :
    (c.leaveRowIn manner index values).run.Asks Request.OfReader := by
  refine (call_asks .nextRow).attempt_bind fun more => ?_
  cases more with
  | true => trivial
  | false => exact Program.asks_liftExcept _

theorem readRowIn_asks : (c.readRowIn manner index).run.Asks Request.OfReader := by
  have looked : (Program.request .fieldCount).Asks Request.OfReader :=
    Program.asks_request trivial
  exact looked.lift.attempt_bind fun _ => (Program.asks_liftExcept _).attempt_bind fun _ =>
    (readValues_asks 0 _).attempt_bind fun _ => leaveRowIn_asks _

theorem readOutcomeIn_asks : (c.readOutcomeIn manner index).run.Asks Request.OfReader := by
  refine (call_asks .nextRow).attempt_bind fun more => ?_
  cases more with
  | true => exact readRowIn_asks
  | false => trivial

theorem enterSet_asks : (manner.enterSet index).run.Asks Request.OfReader := by
  unfold Manner.enterSet
  split
  · refine (call_asks .nextSet).attempt_bind fun moved => ?_
    cases moved <;> trivial
  · trivial

theorem finish_asks : (manner.finish index).run.Asks Request.OfReader := by
  refine (call_asks .nextSet).attempt_bind fun more => ?_
  cases more <;> trivial

/-- What only reads writes nothing back. -/
theorem unwritten_of_reader {α : Type} {p : Program α} {a : α} (asked : p.Asks Request.OfReader)
    (run : p.Runs trace a) : writeBacks trace = [] := by
  refine writeBacks_eq_nil (asked.imp fun r ofReader => ?_) run
  rintro ⟨_, _, _, rfl⟩
  exact ofReader

/-- Values that were read are the ones delivered, in order of the ordinals. -/
theorem readValues_delivers {ordinal count : Nat} {values : List Value}
    (run : (manner.readValues ordinal count).run.Runs trace (.ok values)) :
    values.length = count ∧ deliveries trace = values.zipIdx ordinal := by
  induction count generalizing ordinal trace values with
  | zero =>
    obtain ⟨rfl, same⟩ := Program.runs_attempt_pure.mp run
    cases same
    exact ⟨rfl, rfl⟩
  | succ count ih =>
    obtain ⟨first, others, value, rfl, called, more⟩ := Program.runs_attempt_bind_ok.mp run
    obtain ⟨rest, last, later, rfl, read, done⟩ := Program.runs_attempt_bind_ok.mp more
    obtain ⟨rfl, same⟩ := Program.runs_attempt_pure.mp done
    cases same
    obtain ⟨length, delivered⟩ := ih read
    refine ⟨by simp [length], ?_⟩
    rw [deliveries_append, deliveries_append, deliveries_value called, delivered]
    simp

theorem leaveRowIn_delivers {values : List Value} {outcome : RowOutcome}
    (run : (c.leaveRowIn manner index values).run.Runs trace (.ok outcome)) :
    deliveries trace = [] ∧ c.rowOutcome index values = .ok outcome := by
  obtain ⟨moved, rest, more, rfl, called, left⟩ := Program.runs_attempt_bind_ok.mp run
  have quiet := deliveries_call (by simp) called
  cases more with
  | true =>
    obtain ⟨-, failed⟩ := Program.runs_throw.mp left
    cases failed
  | false =>
    obtain ⟨rfl, same⟩ := Program.runs_liftExcept.mp left
    exact ⟨by simp [quiet], same.symm⟩

/-- A row is read with all the values its command's shape wants, and each of them is delivered. -/
theorem readRowIn_delivers {outcome : RowOutcome}
    (run : (c.readRowIn manner index).run.Runs trace (.ok outcome)) :
    ∃ row : Row, row.length = (ResultShape.ofCommand c).fieldCount ∧
      deliveries trace = row.zipIdx ∧ c.rowOutcome index row = .ok outcome := by
  obtain ⟨looked, _, found, rfl, counted, rest⟩ := Program.runs_lift_bind.mp run
  obtain ⟨_, _, _, rfl, checked, rest⟩ := Program.runs_attempt_bind_ok.mp rest
  obtain ⟨_, _, row, rfl, read, left⟩ := Program.runs_attempt_bind_ok.mp rest
  obtain rfl := Program.runs_request_iff.mp counted
  obtain ⟨rfl, -⟩ := Program.runs_liftExcept.mp checked
  obtain ⟨length, delivered⟩ := readValues_delivers read
  obtain ⟨quiet, judged⟩ := leaveRowIn_delivers left
  refine ⟨row, length, ?_, judged⟩
  rw [deliveries_append, List.nil_append, deliveries_append, delivered, quiet, List.append_nil]
  rfl

theorem readOutcomeIn_delivers {outcome : RowOutcome}
    (run : (c.readOutcomeIn manner index).run.Runs trace (.ok outcome)) :
    outcome = .missing ∨ ∃ row : Row, row.length = (ResultShape.ofCommand c).fieldCount ∧
      deliveries trace = row.zipIdx ∧ c.rowOutcome index row = .ok outcome := by
  obtain ⟨moved, rest, more, rfl, called, left⟩ := Program.runs_attempt_bind_ok.mp run
  have quiet := deliveries_call (by simp) called
  cases more with
  | false =>
    obtain ⟨-, same⟩ := Program.runs_attempt_pure.mp left
    cases same
    exact .inl rfl
  | true =>
    obtain ⟨row, length, delivered, judged⟩ := readRowIn_delivers left
    exact .inr ⟨row, length, by rw [deliveries_append, quiet, List.nil_append, delivered], judged⟩

theorem enterSet_delivers {result : Except Error Unit}
    (run : (manner.enterSet index).run.Runs trace result) : deliveries trace = [] := by
  unfold Manner.enterSet at run
  split at run
  · rcases Program.runs_attempt_bind.mp run with ⟨e, -, called⟩ | ⟨_, _, moved, rfl, called, rest⟩
    · exact deliveries_call (by simp) called
    have quiet := deliveries_call (by simp) called
    cases moved with
    | true =>
      obtain ⟨rfl, -⟩ := Program.runs_attempt_pure.mp rest
      simp [quiet]
    | false =>
      obtain ⟨rfl, -⟩ := Program.runs_throw.mp rest
      simp [quiet]
  · obtain ⟨rfl, -⟩ := Program.runs_attempt_pure.mp run
    rfl

end Reading

/-! ### Completing a command writes its whole row back or nothing -/

section Completing

variable {manner : Manner} {c : Command} {index : Nat} {trace : List Exchange}

theorem forM_writeBacks {pairs : List (Column × Value)} {result : Except Error Unit}
    (run : (pairs.forM fun (column, value) =>
      (liftM (Program.request (.writeBack c.entry column.name value)) : Attempt Unit)).run.Runs
        trace result) :
    result = .ok () ∧ deliveries trace = [] ∧
      writeBacks trace = pairs.map fun (column, value) => (c.entry, column.name, value) := by
  induction pairs generalizing trace with
  | nil =>
    obtain ⟨rfl, rfl⟩ := Program.runs_attempt_pure.mp run
    exact ⟨rfl, rfl, rfl⟩
  | cons pair pairs ih =>
    rw [List.forM_eq_forM, List.forM_cons] at run
    obtain ⟨_, rest, _, rfl, wrote, more⟩ := Program.runs_lift_bind.mp run
    obtain rfl := Program.runs_request_iff.mp wrote
    obtain ⟨rfl, quiet, written⟩ := ih more
    exact ⟨rfl, by rw [deliveries_append, quiet]; rfl, by rw [writeBacks_append, written]; rfl⟩

/-- A wrong number of values changes nothing; otherwise each value is written back once. -/
theorem applyGenerated_effects {values : List Value} {result : Except Error Command}
    (run : (c.applyGenerated index values).run.Runs trace result) :
    deliveries trace = [] ∧
      ((values.length ≠ c.readCount ∧ (∃ e, result = .error e) ∧ writeBacks trace = []) ∨
        (values.length = c.readCount ∧ result = .ok (c.withGenerated values) ∧
          writeBacks trace = c.writeBacks values)) := by
  unfold Command.applyGenerated at run
  split at run
  next wrong =>
    obtain ⟨rfl, same⟩ : trace = [] ∧ result = .error _ := Program.runs_done_iff.mp run
    exact ⟨rfl, .inl ⟨wrong, ⟨_, same⟩, rfl⟩⟩
  next full =>
    rcases Program.runs_attempt_bind.mp run with ⟨e, -, failed⟩ | ⟨_, _, _, rfl, wrote, done⟩
    · cases (forM_writeBacks failed).1
    obtain ⟨-, quiet, written⟩ := forM_writeBacks wrote
    obtain ⟨rfl, rfl⟩ := Program.runs_attempt_pure.mp done
    rw [List.append_nil]
    exact ⟨quiet, .inr ⟨not_not.mp full, rfl, written⟩⟩

/-- What completing a command comes to. Either nothing is written back and it fails, or the whole
row is, the command has received it and some rows were affected. -/
def Completed (c : Command) (row : Row) (trace : List Exchange) (result : Except Error Applied) :
    Prop :=
  deliveries trace = [] ∧
    ((∃ e, result = .error e ∧ writeBacks trace = []) ∨
      ∃ a, result = .ok a ∧ writeBacks trace = c.writeBacks row ∧ c.Received row a.command ∧
        a.rows = c.affectedBy row ∧ 0 < a.rows)

theorem completed_throw {e : Error} {row : Row} {result : Except Error Applied}
    (run : (throw e : Attempt Applied).run.Runs trace result) : Completed c row trace result := by
  obtain ⟨rfl, rfl⟩ := Program.runs_throw.mp run
  exact ⟨rfl, .inl ⟨e, rfl, rfl⟩⟩

theorem complete_generated_effects {columns : Nat}
    (shape : ResultShape.ofCommand c = .generated columns) {values : List Value}
    {result : Except Error Applied}
    (run : (c.complete index (.generated values)).run.Runs trace result) :
    Completed c values trace result := by
  simp only [Command.complete, shape] at run
  rcases Program.runs_attempt_bind.mp run with ⟨e, rfl, failed⟩ | ⟨_, _, after, rfl, wrote, rest⟩
  · obtain ⟨quiet, ⟨-, -, written⟩ | ⟨-, ⟨⟩, -⟩⟩ := applyGenerated_effects failed
    exact ⟨quiet, .inl ⟨e, rfl, written⟩⟩
  obtain ⟨quiet, ⟨-, ⟨_, ⟨⟩⟩, -⟩ | ⟨full, same, written⟩⟩ := applyGenerated_effects wrote
  obtain ⟨_, _, _, rfl, recorded, done⟩ := Program.runs_lift_bind.mp rest
  obtain rfl := Program.runs_request_iff.mp recorded
  obtain ⟨rfl, rfl⟩ := Program.runs_attempt_pure.mp done
  cases same
  have received := Command.received_withGenerated c values full
  have reads : c.readCount ≠ 0 := fun counts => by
    rw [Command.ofCommand_eq_affectedCount_iff.mpr counts] at shape
    cases shape
  refine ⟨by rw [deliveries_append, quiet]; rfl, .inr ⟨_, rfl, ?_, received, ?_, Nat.one_pos⟩⟩
  · rw [writeBacks_append, written]
    exact List.append_nil _
  · exact (if_neg reads).symm

theorem complete_affected_effects (shape : ResultShape.ofCommand c = .affectedCount) {rows : Nat}
    {row : Row} (counted : (row.getLast?.getD .null).rowCount? = some rows)
    {result : Except Error Applied}
    (run : (c.complete index (.affected rows)).run.Runs trace result) :
    Completed c row trace result := by
  have counts := Command.ofCommand_eq_affectedCount_iff.mp shape
  have none : c.readColumns = [] := List.length_eq_zero_iff.mp counts
  simp only [Command.complete, shape] at run
  split at run
  next some =>
    obtain ⟨_, _, _, rfl, recorded, done⟩ := Program.runs_lift_bind.mp run
    obtain rfl := Program.runs_request_iff.mp recorded
    obtain ⟨rfl, rfl⟩ := Program.runs_attempt_pure.mp done
    refine ⟨rfl, .inr ⟨_, rfl, ?_, Command.received_count c row counts, ?_, some⟩⟩
    · simp [Command.writeBacks, none, writeBacks, Exchange.writeBack?]
    · simp [Command.affectedBy, counts, counted]
  next => exact completed_throw run

/-- A row that has been read as its command wants it is applied as a whole or not at all. -/
theorem complete_effects {row : Row} {outcome : RowOutcome} {result : Except Error Applied}
    (read : c.rowOutcome index row = .ok outcome)
    (run : (c.complete index outcome).run.Runs trace result) : Completed c row trace result := by
  cases shape : ResultShape.ofCommand c with
  | generated columns =>
    simp only [Command.rowOutcome, shape, Except.ok.injEq] at read
    subst read
    exact complete_generated_effects shape run
  | affectedCount =>
    simp only [Command.rowOutcome, shape] at read
    split at read
    next counted =>
      cases read
      exact complete_affected_effects shape counted run
    next => cases read

/-- A missing row is never applied. -/
theorem complete_missing_effects {result : Except Error Applied}
    (run : (c.complete index .missing).run.Runs trace result) :
    (∃ e, result = .error e) ∧ writeBacks trace = [] := by
  unfold Command.complete at run
  split at run
  next missing => cases missing
  next missing => cases missing
  all_goals
    obtain ⟨rfl, rfl⟩ := Program.runs_throw.mp run
    exact ⟨⟨_, rfl⟩, rfl⟩

end Completing

/-! ### Walks -/

/-- A command that was reconciled has been settled by the exchanges made for it; one that was not
has nothing written back. -/
theorem reconcileIn_settles {manner : Manner} {c : Command} {index : Nat} {trace : List Exchange}
    {result : Except Error Applied} (run : (c.reconcileIn manner index).run.Runs trace result) :
    (∃ e, result = .error e ∧ writeBacks trace = []) ∨
      ∃ s : Settlement, result = .ok s.applied ∧ s.before = c ∧ s.exchanges = trace := by
  rcases Program.runs_attempt_bind.mp run with ⟨e, rfl, failed⟩ | ⟨moved, _, _, rfl, entered, rest⟩
  · exact .inl ⟨e, rfl, unwritten_of_reader enterSet_asks failed⟩
  have quietly := enterSet_delivers entered
  have unwritten := unwritten_of_reader enterSet_asks entered
  rcases Program.runs_attempt_bind.mp rest with
    ⟨e, rfl, failed⟩ | ⟨looked, _, outcome, rfl, read, completed⟩
  · refine .inl ⟨e, rfl, ?_⟩
    rw [writeBacks_append, unwritten, unwritten_of_reader readOutcomeIn_asks failed]
    rfl
  have silent := unwritten_of_reader readOutcomeIn_asks read
  rcases readOutcomeIn_delivers read with rfl | ⟨row, width, delivered, judged⟩
  · obtain ⟨⟨e, failed⟩, nothing⟩ := complete_missing_effects completed
    refine .inl ⟨e, failed, ?_⟩
    rw [writeBacks_append, writeBacks_append, unwritten, silent, nothing]
    rfl
  obtain ⟨quiet, ⟨e, failed, nothing⟩ | ⟨a, rfl, written, received, counted, some⟩⟩ :=
    complete_effects judged completed
  · refine .inl ⟨e, failed, ?_⟩
    rw [writeBacks_append, writeBacks_append, unwritten, silent, nothing]
    rfl
  · rw [counted] at some
    refine .inr ⟨⟨c, row, _, a.command, width, ?_, ?_, received, some⟩, ?_, rfl, rfl⟩
    · rw [deliveries_append, deliveries_append, quietly, delivered, quiet]
      simp
    · rw [writeBacks_append, writeBacks_append, unwritten, silent, written]
      rfl
    · exact congrArg (fun rows => Except.ok (Applied.mk a.command rows)) counted

theorem finish_delivers {manner : Manner} {index : Nat} {trace : List Exchange}
    {result : Except Error Unit} (run : (manner.finish index).run.Runs trace result) :
    deliveries trace = [] := by
  rcases Program.runs_attempt_bind.mp run with ⟨e, -, called⟩ | ⟨_, _, more, rfl, called, rest⟩
  · exact deliveries_call (by simp) called
  have quiet := deliveries_call (by simp) called
  cases more with
  | true =>
    obtain ⟨rfl, -⟩ := Program.runs_throw.mp rest
    simp [quiet]
  | false =>
    obtain ⟨rfl, -⟩ := Program.runs_attempt_pure.mp rest
    simp [quiet]

namespace Reconciliation

/-- The end of a walk that reached `index`: the check that no result set is left, or the result of
the first pending command, which was not applied. -/
inductive Tail (manner : Manner) (index : Nat) :
    List Command → List Exchange → Except Error Unit → Prop
  | finished {trace : List Exchange} {result : Except Error Unit}
      (run : (manner.finish index).run.Runs trace result) : Tail manner index [] trace result
  | stopped {c : Command} {later : List Command} {trace : List Exchange} {e : Error}
      (run : (c.reconcileIn manner index).run.Runs trace (.error e)) :
    Tail manner index (c :: later) trace (.error e)

namespace Tail

variable {manner : Manner} {index : Nat} {pending : List Command} {trace : List Exchange}
variable {result : Except Error Unit}

theorem unwritten (tail : Tail manner index pending trace result) : writeBacks trace = [] := by
  cases tail with
  | finished run => exact unwritten_of_reader finish_asks run
  | stopped run =>
    obtain ⟨_, -, nothing⟩ | ⟨_, ⟨⟩, -⟩ := reconcileIn_settles run
    exact nothing

/-- Only a walk over all commands succeeds. -/
theorem pending_eq_nil (tail : Tail manner index pending trace (.ok ())) : pending = [] := by
  cases tail with
  | finished run => rfl

/-- Behind the last command nothing is delivered. -/
theorem undelivered (tail : Tail manner index pending trace result) (all : pending = []) :
    deliveries trace = [] := by
  cases tail with
  | finished run => exact finish_delivers run
  | stopped run => cases all

end Tail

/-- Every walk is the settlements of the commands it applied, each of them the reconciliation of its
command, one after the other, and a tail. The induction is on the commands still to come. -/
theorem walkIn_parts {manner : Manner} {applied : List Applied} {pending : List Command}
    {trace : List Exchange} {r : Reconciliation} {result : Except Error Unit}
    (run : (walkIn manner applied pending).Runs trace (r, result)) :
    ∃ (settled : List Settlement) (rest : List Exchange),
      pending = settled.map (·.before) ++ r.pending ∧
      r.applied = applied ++ settled.map (·.applied) ∧
      trace = settled.flatMap (·.exchanges) ++ rest ∧
      (∀ s ∈ settled, ∃ index,
        (s.before.reconcileIn manner index).run.Runs s.exchanges (.ok s.applied)) ∧
      Tail manner r.position r.pending rest result := by
  induction pending generalizing applied trace with
  | nil =>
    obtain ⟨_, _, finished, rfl, ended, done⟩ := Program.runs_bind.mp run
    obtain ⟨rfl, same⟩ := Program.runs_done_iff.mp done
    cases same
    exact ⟨[], _, rfl, by simp, rfl, nofun, by simpa using .finished ended⟩
  | cons c others ih =>
    obtain ⟨_, _, reconciled, rfl, head, tail⟩ := Program.runs_bind.mp run
    rcases reconcileIn_settles head with ⟨e, rfl, -⟩ | ⟨s, rfl, before, own⟩
    · obtain ⟨rfl, same⟩ := Program.runs_done_iff.mp tail
      cases same
      exact ⟨[], _, rfl, by simp, rfl, nofun, by simpa using .stopped head⟩
    · obtain ⟨settled, rest, pending, commands, exchanges, reconciled, ended⟩ := ih tail
      rw [← before, ← own] at head
      refine ⟨s :: settled, rest, ?_, ?_, ?_, ?_, ended⟩
      · rw [List.map_cons, List.cons_append, before, ← pending]
      · rw [commands, List.append_assoc, List.map_cons]
        rfl
      · rw [List.flatMap_cons, own, List.append_assoc, ← exchanges]
      · exact List.forall_mem_cons.mpr ⟨⟨_, head⟩, reconciled⟩

theorem deliveries_settled (settled : List Settlement) :
    deliveries (settled.flatMap (·.exchanges)) = settled.flatMap (·.row.zipIdx) := by
  induction settled with
  | nil => rfl
  | cons x settled ih =>
    rw [List.flatMap_cons, deliveries_append, x.delivered, ih, List.flatMap_cons]

theorem writeBacks_settled (settled : List Settlement) :
    writeBacks (settled.flatMap (·.exchanges)) =
      settled.flatMap fun s => s.before.writeBacks s.row := by
  induction settled with
  | nil => rfl
  | cons s settled ih => rw [List.flatMap_cons, writeBacks_append, s.written, ih, List.flatMap_cons]

/-- Fresh results are applied command by command, completely or not at all, in either manner, under
every behaviour of the reader and every cancellation. The commands below the position have each
received the row read for them, and these rows are what is written back, in order and once; the
commands from the position on are as they were. Only a walk over all commands succeeds. -/
theorem consume_settles {manner : Manner} {commands : List Command} {trace : List Exchange}
    {r : Reconciliation} {result : Except (Abort Error) Unit}
    (run : ((start commands).consumeIn manner).Runs trace (r, result)) :
    ∃ (settled : List Settlement) (untouched : List Command) (rest : List Exchange),
      settled.length = r.position ∧ r.rowsAffected.length = r.position ∧
      commands = settled.map (·.before) ++ untouched ∧
      r.commands = settled.map (·.after) ++ untouched ∧
      trace = settled.flatMap (·.exchanges) ++ rest ∧
      writeBacks trace = settled.flatMap (fun s => s.before.writeBacks s.row) ∧
      (result = .ok () → r.position = commands.length) := by
  rw [consumeIn_start] at run
  obtain ⟨⟨r', result'⟩, same, walked⟩ := Program.runs_map.mp run
  cases same
  obtain ⟨settled, rest, pending, applied, exchanges, -, tail⟩ := walkIn_parts walked
  rw [List.nil_append] at applied
  have position : settled.length = r'.position := by
    rw [Reconciliation.position, applied, List.length_map]
  have received : r'.applied.map (·.command) = settled.map (·.after) := by
    rw [applied, List.map_map]
    rfl
  refine ⟨settled, r'.pending, rest, position, by simp [rowsAffected, Reconciliation.position],
    pending, by rw [Reconciliation.commands, received], exchanges, ?_, ?_⟩
  · rw [exchanges, writeBacks_append, tail.unwritten, List.append_nil, writeBacks_settled]
  · intro succeeded
    cases result' with
    | error e => cases succeeded
    | ok _ => rw [← position, pending, tail.pending_eq_nil, List.append_nil, List.length_map]

/-- The caller gives up while the second of two generated keys is pending: the first insert is
settled, the second one untouched. -/
theorem consume_settles_until_cancelled :
    ∃ (trace : List Exchange) (r : Reconciliation) (result : Except (Abort Error) Unit),
      ((start [.identityInsert 0, .identityInsert 1]).consumeIn .suspending).Runs trace
        (r, result) ∧
      r.position = 1 ∧
      ∃ (settled : List Settlement) (untouched : List Command) (rest : List Exchange),
        settled.length = r.position ∧ r.rowsAffected.length = r.position ∧
        [.identityInsert 0, .identityInsert 1] = settled.map (·.before) ++ untouched ∧
        r.commands = settled.map (·.after) ++ untouched ∧
        trace = settled.flatMap (·.exchanges) ++ rest ∧
        writeBacks trace = settled.flatMap (fun s => s.before.writeBacks s.row) ∧
        (result = .ok () → r.position = 2) := by
  have run : ((start [.identityInsert 0, .identityInsert 1]).consumeIn .suspending).Runs
      [⟨.cancelled, false⟩, ⟨.await (.reader .nextRow), some (.ok true)⟩, ⟨.fieldCount, (1 : Nat)⟩,
       ⟨.cancelled, false⟩, ⟨.await (.reader (.value 0)), some (.ok (.int 42))⟩,
       ⟨.cancelled, false⟩, ⟨.await (.reader .nextRow), some (.ok false)⟩,
       ⟨.writeBack 0 "id" (.int 42), ()⟩, ⟨.record (.commandApplied "users" .insert 1), ()⟩,
       ⟨.cancelled, false⟩, ⟨.await (.reader .nextSet), some (.ok true)⟩,
       ⟨.cancelled, false⟩, ⟨.await (.reader .nextRow), some (.ok true)⟩, ⟨.fieldCount, (1 : Nat)⟩,
       ⟨.cancelled, false⟩, ⟨.await (.reader (.value 0)), none⟩]
      (⟨[⟨(Command.identityInsert 0).withGenerated [.int 42], 1⟩], [.identityInsert 1]⟩,
        .error (.failed (.cancelled .reader))) := by
    rw [consumeIn_start]
    exact .ask _ (.ask _ (.ask _ (.ask _ (.ask _ (.ask _ (.ask _ (.ask _ (.ask _ (.ask _
      (.ask _ (.ask _ (.ask _ (.ask _ (.ask _ (.ask _ (.done _))))))))))))))))
  exact ⟨_, _, _, run, rfl, consume_settles run⟩

end Reconciliation

end BatchedSave
