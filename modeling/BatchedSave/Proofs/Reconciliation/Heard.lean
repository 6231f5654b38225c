import BatchedSave.Proofs.Program.Guarded
import BatchedSave.Proofs.Reconciliation.Acceptance
import BatchedSave.Proofs.Reconciliation.Rejection

/-!
# What is heard of a reader

A reader tells whether there is a further result set or row, how wide a row is, and values. A walk
that ends early was cut short by its last call or by the caller, or heard something else than
answers to its commands. `Rejects` says what that can be and with which error it is met, as `Fault`
does for result sets held in memory. The main statement, `walkIn_stops`, is that there is no other
way for a walk to end early, in either manner and whatever the reader tells.
-/
namespace BatchedSave

inductive Heard where
  | set (found : Bool)
  | row (found : Bool)
  | width (columns : Nat)
  | value (v : Value)
  deriving DecidableEq, Repr

/-- What an answer to a call tells. -/
def ReaderCall.heard : (call : ReaderCall) → (StoreCall.reader call).Result → Heard
  | .nextSet, found => .set found
  | .nextRow, found => .row found
  | .value _, v => .value v

def Exchange.heard? : Exchange → Option Heard
  | ⟨.store (.reader call), .ok answer⟩ => some (call.heard answer)
  | ⟨.await (.reader call), some (.ok answer)⟩ => some (call.heard answer)
  | ⟨.fieldCount, columns⟩ => some (.width columns)
  | _ => none

/-- What is heard of the reader in a trace, in order. -/
def heard (trace : List Exchange) : List Heard :=
  trace.filterMap Exchange.heard?

@[simp] theorem heard_nil : heard [] = [] := rfl

@[simp] theorem heard_append (first second : List Exchange) :
    heard (first ++ second) = heard first ++ heard second :=
  List.filterMap_append

namespace Reconciliation

/-- What is heard when the command at `index` moves to its result set; the first one's is the
current set. -/
def entering (index : Nat) : List Heard :=
  if 0 < index then [.set true] else []

end Reconciliation

/-- What is heard of a result set that is read for the command. -/
def Command.hears (c : Command) : ResultSet → List Heard
  | [] => [.row false]
  | row :: more =>
    .row true :: .width row.length ::
      if row.length = c.answerWidth then row.map .value ++ [.row (!more.isEmpty)] else []

namespace Reconciliation

/-- What is heard of a reader whose results the commands from `index` on reject, and the error.
Behind answers to some of them it is that there is no result set for the next one, or a result set
that does not answer it; behind answers to all of them, that a result set is left over. -/
inductive Rejects : Nat → List Command → List Heard → Error → Prop
  | missingResultSet {index : Nat} {c : Command} {rest : List Command} (later : 0 < index) :
    Rejects index (c :: rest) [.set false] (Violation.missingResultSet.toError index)
  | offence {index : Nat} {c : Command} {rest : List Command} {set : ResultSet} {e : Error}
      (here : c.Offence index set e) :
    Rejects index (c :: rest) (entering index ++ c.hears set) e
  | later {index : Nat} {c : Command} {rest : List Command} {set : ResultSet} {heard : List Heard}
      {e : Error} (answered : c.AnsweredBy set) (behind : Rejects (index + 1) rest heard e) :
    Rejects index (c :: rest) (entering index ++ c.hears set ++ heard) e
  | unconsumed {index : Nat} :
    Rejects index [] [.set true] (Violation.unconsumedResultSet.toError index)

theorem Rejects.isJudged {index : Nat} {commands : List Command} {heard : List Heard} {e : Error}
    (rejects : Rejects index commands heard e) : e.isJudged = true := by
  induction rejects with
  | missingResultSet => rfl
  | offence here => cases here <;> rfl
  | later _ _ ih => exact ih
  | unconsumed => rfl

end Reconciliation

/-! ### Calls that come back with an error -/

/-- An attempt that ends early by no fault of what was read: the caller gave up, or the last call
failed of its own. -/
inductive Cut (trace : List Exchange) : Error → Prop
  | cancelled (origin : Origin) : Cut trace (.cancelled origin)
  | own {x : Exchange} {e : Error} (last : lastCall trace = some x) (own : x.error? = some e) :
    Cut trace e

section Calls

variable {manner : Manner} {trace : List Exchange}

theorem Cut.behind {e : Error} (earlier : List Exchange) (cut : Cut trace e) :
    Cut (earlier ++ trace) e := by
  cases cut with
  | cancelled origin => exact .cancelled origin
  | own last own => exact .own (lastCall_append _ last) own

theorem Cut.before {e : Error} {later : List Exchange} (quiet : calls later = [])
    (cut : Cut trace e) : Cut (trace ++ later) e := by
  cases cut with
  | cancelled origin => exact .cancelled origin
  | own last own => exact .own ((lastCall_append_quiet quiet).trans last) own

theorem perform_cut {origin : Origin} {call : StoreCall} {e : Error}
    (run : (manner.perform origin call).run.Runs trace (.error e)) : Cut trace e := by
  rcases Program.runs_perform run with rfl | rfl | ⟨same, -⟩
  · exact .own rfl rfl
  · exact .own rfl rfl
  · cases same
    exact .cancelled origin

theorem perform_hears {call : ReaderCall} {answer : (StoreCall.reader call).Result}
    (run : (manner.perform .reader (.reader call)).run.Runs trace (.ok answer)) :
    heard trace = [call.heard answer] := by
  rcases Program.runs_perform run with rfl | rfl | ⟨failed, -⟩
  · rfl
  · rfl
  · cases failed

/-- An attempt that makes a call first is cut by it or goes on from what is heard. -/
theorem runs_perform_bind {α : Type} {call : ReaderCall}
    {next : (StoreCall.reader call).Result → Attempt α} {result : Except Error α}
    (run : (manner.perform .reader (.reader call) >>= next).run.Runs trace result) :
    (∃ e, result = .error e ∧ Cut trace e) ∨
      ∃ called rest answer, trace = called ++ rest ∧ heard called = [call.heard answer] ∧
        (next answer).run.Runs rest result := by
  rcases Program.runs_attempt_bind.mp run with ⟨e, rfl, failed⟩ | ⟨called, rest, a, rfl, done, more⟩
  · exact .inl ⟨e, rfl, perform_cut failed⟩
  · exact .inr ⟨called, rest, a, rfl, perform_hears done, more⟩

end Calls

/-! ### One command -/

namespace Command

section Judging

variable {c : Command} {index : Nat}

theorem outcomeOf_cons_ok {row : Row} {more : List Row} {outcome : RowOutcome}
    (read : c.outcomeOf index (row :: more) = .ok outcome) :
    row.length = c.answerWidth ∧ more = [] ∧ c.rowOutcome index row = .ok outcome := by
  simp only [outcomeOf] at read
  split at read
  next full =>
    split at read
    next last => exact ⟨full, List.isEmpty_iff.mp last, read⟩
    next => cases read
  next => cases read

/-- A result set that cannot be read offends. -/
theorem offence_of_outcomeOf {set : ResultSet} {e : Error}
    (failed : c.outcomeOf index set = .error e) : c.Offence index set e := by
  cases set with
  | nil => cases failed
  | cons row more =>
    simp only [outcomeOf] at failed
    split at failed
    next full =>
      cases more with
      | cons next more =>
        cases failed
        exact .extraRow full
      | nil =>
        have judged : c.rowOutcome index row = .error e := failed
        by_cases counts : c.readCount = 0
        · obtain ⟨value, rfl⟩ := List.length_eq_one_iff.mp (full.trans (if_pos counts))
          rw [rowOutcome_of_counts counts] at judged
          split at judged
          next => cases judged
          next none =>
            cases judged
            exact .notACount counts ((rowCount?_eq_none_iff value).mp none)
        · rw [rowOutcome, ofCommand_of_reads counts] at judged
          cases judged
    next wrong =>
      cases failed
      exact .width wrong

theorem rowCount?_eq_some {value : Value} {rows : Nat} (counted : value.rowCount? = some rows) :
    ∃ m : Int64, value = .int m ∧ 0 ≤ m.toInt ∧ rows = m.toInt.toNat := by
  unfold Value.rowCount? at counted
  split at counted
  next n =>
    split at counted
    next natural => exact ⟨n, rfl, natural, (Option.some.inj counted).symm⟩
    next => cases counted
  next => cases counted

end Judging

end Command

namespace Reconciliation

section Commands

variable {manner : Manner} {c : Command} {index : Nat} {trace : List Exchange}

theorem readValues_hears {ordinal count : Nat} {result : Except Error (List Value)}
    (run : (manner.readValues ordinal count).run.Runs trace result) :
    (∃ e, result = .error e ∧ Cut trace e) ∨
      ∃ values, result = .ok values ∧ values.length = count ∧
        heard trace = values.map .value := by
  induction count generalizing ordinal trace result with
  | zero =>
    obtain ⟨rfl, rfl⟩ := Program.runs_attempt_pure.mp run
    exact .inr ⟨[], rfl, rfl, rfl⟩
  | succ count ih =>
    rcases runs_perform_bind run with cut | ⟨first, _, value, rfl, here, more⟩
    · exact .inl cut
    rcases Program.runs_attempt_bind.mp more with
      ⟨e, rfl, failed⟩ | ⟨others, _, values, rfl, read, done⟩
    · rcases ih failed with ⟨_, same, cut⟩ | ⟨_, ⟨⟩, -⟩
      cases same
      exact .inl ⟨e, rfl, cut.behind first⟩
    · obtain ⟨rfl, rfl⟩ := Program.runs_attempt_pure.mp done
      rcases ih read with ⟨_, ⟨⟩, -⟩ | ⟨_, same, length, there⟩
      cases same
      refine .inr ⟨_, rfl, by rw [List.length_cons, length], ?_⟩
      rw [heard_append, heard_append, here, there, heard_nil, List.append_nil]
      rfl

theorem leaveRowIn_hears {values : List Value} {result : Except Error RowOutcome}
    (run : (c.leaveRowIn manner index values).run.Runs trace result) :
    (∃ e, result = .error e ∧ Cut trace e) ∨
      (heard trace = [.row true] ∧ result = .error (Violation.extraRow.toError index)) ∨
      (heard trace = [.row false] ∧ result = c.rowOutcome index values) := by
  rcases runs_perform_bind run with cut | ⟨called, _, more, rfl, here, left⟩
  · exact .inl cut
  cases more with
  | true =>
    obtain ⟨rfl, rfl⟩ := Program.runs_throw.mp left
    exact .inr (.inl ⟨by rw [List.append_nil, here]; rfl, rfl⟩)
  | false =>
    obtain ⟨rfl, rfl⟩ := Program.runs_liftExcept.mp left
    exact .inr (.inr ⟨by rw [List.append_nil, here]; rfl, rfl⟩)

/-- A row is read on just if it is as wide as the command asks for. -/
theorem runs_checkWidth_bind {α : Type} {found : Nat} {next : Unit → Attempt α}
    {result : Except Error α}
    (run : ((liftExcept (c.checkWidth index found) : Attempt Unit) >>= next).run.Runs
      trace result) :
    (found = c.answerWidth ∧ (next ()).run.Runs trace result) ∨
      (found ≠ c.answerWidth ∧ trace = [] ∧
        result = .error ((Violation.width c.answerWidth found).toError index)) := by
  by_cases full : found = c.answerWidth
  · rw [Command.checkWidth_eq_ok index full] at run
    exact .inl ⟨full, run⟩
  · rw [Command.checkWidth_eq_error index full] at run
    exact .inr ⟨full, Program.runs_throw.mp run⟩

/-- Reading a row that has been entered is cut, or comes to what the result set says of which it was
heard. What has not been heard of it does not matter. -/
theorem readRowIn_hears {result : Except Error RowOutcome}
    (run : (c.readRowIn manner index).run.Runs trace result) :
    (∃ e, result = .error e ∧ Cut trace e) ∨
      ∃ row more, .row true :: heard trace = c.hears (row :: more) ∧
        result = c.outcomeOf index (row :: more) := by
  obtain ⟨_, _, found, rfl, counted, checking⟩ := Program.runs_lift_bind.mp run
  obtain rfl := Program.runs_request_iff.mp counted
  have width : heard [⟨.fieldCount, found⟩] = [.width found] := rfl
  rcases runs_checkWidth_bind checking with ⟨full, reading⟩ | ⟨wrong, rfl, rfl⟩
  swap
  · refine .inr ⟨List.replicate found .null, [], ?_, ?_⟩
    · simp [Command.hears, width, wrong]
    · simp [Command.outcomeOf, wrong]
  rcases Program.runs_attempt_bind.mp reading with
    ⟨e, rfl, failed⟩ | ⟨valued, _, row, rfl, read, left⟩
  · rcases readValues_hears failed with ⟨_, same, cut⟩ | ⟨_, ⟨⟩, -⟩
    cases same
    exact .inl ⟨e, rfl, cut.behind _⟩
  rcases readValues_hears read with ⟨_, ⟨⟩, -⟩ | ⟨_, same, length, values⟩
  cases same
  rw [Command.fieldCount_ofCommand] at length
  rcases leaveRowIn_hears left with ⟨e, rfl, cut⟩ | ⟨there, rfl⟩ | ⟨there, rfl⟩
  · exact .inl ⟨e, rfl, (cut.behind valued).behind _⟩
  · refine .inr ⟨row, [[]], ?_, ?_⟩
    · rw [heard_append, heard_append, width, values, there, full, ← length]
      simp [Command.hears, length]
    · simp [Command.outcomeOf, length]
  · refine .inr ⟨row, [], ?_, ?_⟩
    · rw [heard_append, heard_append, width, values, there, full, ← length]
      simp [Command.hears, length]
    · simp [Command.outcomeOf, length]

/-- Reading a result set is cut, or comes to what the set says of which it was heard. -/
theorem readOutcomeIn_hears {result : Except Error RowOutcome}
    (run : (c.readOutcomeIn manner index).run.Runs trace result) :
    (∃ e, result = .error e ∧ Cut trace e) ∨
      ∃ set, heard trace = c.hears set ∧ result = c.outcomeOf index set := by
  rcases runs_perform_bind run with cut | ⟨entered, _, some, rfl, here, rest⟩
  · exact .inl cut
  rw [heard_append, here]
  cases some with
  | false =>
    obtain ⟨rfl, rfl⟩ := Program.runs_attempt_pure.mp rest
    exact .inr ⟨[], rfl, rfl⟩
  | true =>
    rcases readRowIn_hears rest with ⟨e, rfl, cut⟩ | ⟨row, more, there, rfl⟩
    · exact .inl ⟨e, rfl, cut.behind entered⟩
    · exact .inr ⟨row :: more, there, rfl⟩

theorem complete_asks {outcome : RowOutcome} :
    (c.complete index outcome).run.Asks Request.IsEffect := by
  have recorded (table : String) (kind : ChangeKind) (values : Nat) :
      (Program.request (.record (.commandApplied table kind values))).Asks Request.IsEffect :=
    Program.asks_request trivial
  unfold Command.complete Command.applyGenerated
  split
  · refine Program.Asks.attempt_bind ?_ fun _ => (recorded _ _ _).lift.attempt_bind fun _ => trivial
    split
    · trivial
    · refine (Program.Asks.forM _ fun pair => ?_).attempt_bind fun _ => trivial
      exact (Program.asks_request trivial).lift
  · split
    · exact (recorded _ _ _).lift.attempt_bind fun _ => trivial
    · trivial
  all_goals trivial

theorem complete_unheard {outcome : RowOutcome} {result : Except Error Applied}
    (run : (c.complete index outcome).run.Runs trace result) : heard trace = [] := by
  refine complete_asks.filterMap_eq_nil (fun x effect => ?_) run
  obtain ⟨request, answer⟩ := x
  cases request with
  | store call => exact effect.elim
  | await call => exact effect.elim
  | fieldCount => exact effect.elim
  | _ => rfl

/-- What becomes of a result set that has been read: it answers the command and is applied, or it
offends and is reported so. -/
def Judged (c : Command) (index : Nat) (set : ResultSet) (result : Except Error Applied) : Prop :=
  ((∃ a, result = .ok a) ∧ c.AnsweredBy set) ∨ ∃ e, result = .error e ∧ c.Offence index set e

section Judging

variable {set : ResultSet} {outcome : RowOutcome} {result : Except Error Applied}

theorem complete_count_judged (counts : c.readCount = 0)
    (read : c.outcomeOf index set = .ok outcome)
    (run : (c.complete index outcome).run.Runs trace result) : Judged c index set result := by
  have shape := Command.ofCommand_eq_affectedCount_iff.mpr counts
  cases set with
  | nil =>
    cases read
    simp only [Command.complete, shape] at run
    obtain ⟨-, rfl⟩ := Program.runs_throw.mp run
    exact .inr ⟨_, rfl, .missingCount counts⟩
  | cons row more =>
    obtain ⟨full, rfl, judged⟩ := Command.outcomeOf_cons_ok read
    obtain ⟨value, rfl⟩ := List.length_eq_one_iff.mp (full.trans (if_pos counts))
    rw [Command.rowOutcome_of_counts counts] at judged
    cases counted : value.rowCount? with
    | none =>
      rw [counted] at judged
      cases judged
    | some rows =>
      rw [counted] at judged
      cases judged
      obtain ⟨m, rfl, natural, rfl⟩ := Command.rowCount?_eq_some counted
      simp only [Command.complete, shape] at run
      split at run
      next positive =>
        obtain ⟨_, _, _, rfl, -, done⟩ := Program.runs_lift_bind.mp run
        obtain ⟨-, rfl⟩ := Program.runs_attempt_pure.mp done
        exact .inl ⟨⟨_, rfl⟩, .counted counts (by omega)⟩
      next zero =>
        obtain ⟨-, rfl⟩ := Program.runs_throw.mp run
        have none : m.toInt = 0 := by omega
        obtain rfl : m = 0 := Int64.toInt_inj.mp none
        exact .inr ⟨_, rfl, .noneAffected counts⟩

theorem complete_row_judged (reads : c.readCount ≠ 0) (read : c.outcomeOf index set = .ok outcome)
    (run : (c.complete index outcome).run.Runs trace result) : Judged c index set result := by
  have shape := Command.ofCommand_of_reads reads
  cases set with
  | nil =>
    cases read
    simp only [Command.complete, shape] at run
    obtain ⟨-, rfl⟩ := Program.runs_throw.mp run
    exact .inr ⟨_, rfl, .missingRow reads⟩
  | cons row more =>
    obtain ⟨full, rfl, judged⟩ := Command.outcomeOf_cons_ok read
    have width : row.length = c.readCount := full.trans (if_neg reads)
    simp only [Command.rowOutcome, shape, Except.ok.injEq] at judged
    subst judged
    simp only [Command.complete, shape] at run
    rcases Program.runs_attempt_bind.mp run with ⟨e, -, failed⟩ | ⟨_, _, after, rfl, -, rest⟩
    · obtain ⟨-, ⟨wrong, -⟩ | ⟨-, ⟨⟩, -⟩⟩ := applyGenerated_effects failed
      exact absurd width wrong
    obtain ⟨_, _, _, rfl, -, done⟩ := Program.runs_lift_bind.mp rest
    obtain ⟨-, rfl⟩ := Program.runs_attempt_pure.mp done
    exact .inl ⟨⟨_, rfl⟩, .generated reads width⟩

/-- A result set that has been read is applied just if it answers the command. -/
theorem complete_judged (read : c.outcomeOf index set = .ok outcome)
    (run : (c.complete index outcome).run.Runs trace result) : Judged c index set result := by
  by_cases counts : c.readCount = 0
  · exact complete_count_judged counts read run
  · exact complete_row_judged counts read run

end Judging

/-- Reconciling a command is cut, or it is heard that there is no result set for it, or it is judged
by a result set that was heard. -/
theorem reconcileIn_hears {result : Except Error Applied}
    (run : (c.reconcileIn manner index).run.Runs trace result) :
    (∃ e, result = .error e ∧ Cut trace e) ∨
      (0 < index ∧ heard trace = [.set false] ∧
        result = .error (Violation.missingResultSet.toError index)) ∨
      ∃ set, heard trace = entering index ++ c.hears set ∧ Judged c index set result := by
  -- from the current result set on
  have judged {rest : List Exchange}
      (read : (c.readOutcomeIn manner index >>= c.complete index).run.Runs rest result) :
      (∃ e, result = .error e ∧ Cut rest e) ∨
        ∃ set, heard rest = c.hears set ∧ Judged c index set result := by
    rcases Program.runs_attempt_bind.mp read with ⟨e, rfl, failed⟩ | ⟨_, _, _, rfl, done, completed⟩
    · rcases readOutcomeIn_hears failed with ⟨_, same, cut⟩ | ⟨set, here, same⟩
      · cases same
        exact .inl ⟨e, rfl, cut⟩
      · exact .inr ⟨set, here, .inr ⟨e, rfl, Command.offence_of_outcomeOf same.symm⟩⟩
    · rcases readOutcomeIn_hears done with ⟨_, ⟨⟩, -⟩ | ⟨set, here, same⟩
      refine .inr ⟨set, ?_, complete_judged same.symm completed⟩
      rw [heard_append, here, complete_unheard completed, List.append_nil]
  unfold Command.reconcileIn Manner.enterSet at run
  by_cases first : 0 < index
  · rw [if_pos first, bind_assoc] at run
    rcases runs_perform_bind run with cut | ⟨moved, _, found, rfl, here, rest⟩
    · exact .inl cut
    cases found with
    | false =>
      obtain ⟨rfl, rfl⟩ := Program.runs_throw.mp rest
      exact .inr (.inl ⟨first, by rw [List.append_nil, here]; rfl, rfl⟩)
    | true =>
      rcases judged rest with ⟨e, rfl, cut⟩ | ⟨set, there, verdict⟩
      · exact .inl ⟨e, rfl, cut.behind moved⟩
      · refine .inr (.inr ⟨set, ?_, verdict⟩)
        rw [heard_append, here, there, entering, if_pos first]
        rfl
  · rw [if_neg first] at run
    rcases judged run with cut | ⟨set, there, verdict⟩
    · exact .inl cut
    · refine .inr (.inr ⟨set, ?_, verdict⟩)
      rw [there, entering, if_neg first, List.nil_append]

end Commands

/-! ### Walks -/

/-- A walk that ends early was cut short, or rejected what it heard. The induction is on the
commands still to come. -/
theorem walkIn_stops {manner : Manner} {applied : List Applied} {pending : List Command}
    {trace : List Exchange} {r : Reconciliation} {e : Error}
    (run : (walkIn manner applied pending).Runs trace (r, .error e)) :
    Cut trace e ∨ Rejects applied.length pending (heard trace) e := by
  induction pending generalizing applied trace with
  | nil =>
    obtain ⟨_, _, finished, rfl, ended, done⟩ := Program.runs_bind.mp run
    obtain ⟨rfl, same⟩ := Program.runs_done_iff.mp done
    cases same
    rw [List.append_nil]
    rcases runs_perform_bind ended with ⟨_, same, cut⟩ | ⟨moved, _, found, rfl, here, rest⟩
    · cases same
      exact .inl cut
    cases found with
    | true =>
      obtain ⟨rfl, same⟩ := Program.runs_throw.mp rest
      cases same
      rw [List.append_nil, here]
      exact .inr .unconsumed
    | false => cases (Program.runs_attempt_pure.mp rest).2
  | cons c others ih =>
    obtain ⟨head, _, reconciled, rfl, first, tail⟩ := Program.runs_bind.mp run
    rcases reconcileIn_hears first with
      ⟨_, rfl, cut⟩ | ⟨later, here, rfl⟩ | ⟨set, here, ⟨⟨a, rfl⟩, answered⟩ | ⟨_, rfl, offence⟩⟩
    · obtain ⟨rfl, same⟩ := Program.runs_done_iff.mp tail
      cases same
      rw [List.append_nil]
      exact .inl cut
    · obtain ⟨rfl, same⟩ := Program.runs_done_iff.mp tail
      cases same
      rw [List.append_nil, here]
      exact .inr (.missingResultSet later)
    · rcases ih tail with cut | rejects
      · exact .inl (cut.behind head)
      · rw [List.length_append] at rejects
        rw [heard_append, here]
        exact .inr (.later answered rejects)
    · obtain ⟨rfl, same⟩ := Program.runs_done_iff.mp tail
      cases same
      rw [List.append_nil, here]
      exact .inr (.offence offence)

end Reconciliation

end BatchedSave
