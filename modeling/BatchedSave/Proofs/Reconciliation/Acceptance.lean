import Mathlib.Data.List.Forall2
import BatchedSave.Proofs.Program.OverCursor
import BatchedSave.Proofs.Reconciliation.Settlement

/-!
# Which result streams are accepted

A result set answers a command if it is one row of the right width and, for a command without read
columns, that row counts at least one affected row. Result sets held in memory are accepted exactly
if they answer the commands one by one. Otherwise the walk fails at the first command that is not
answered, and `Fault` says with which error.

A fresh cursor stands on its first result set already. Over no result sets at all it stands at the
end of an empty one, so the first command finds its row missing and not its result set.
-/
namespace BatchedSave

namespace Command

/-- How many values the row that answers a command holds: one for each read column, or a count. -/
def answerWidth (c : Command) : Nat :=
  if c.readCount = 0 then 1 else c.readCount

inductive AnsweredBy (c : Command) : ResultSet → Prop
  | generated {row : Row} (reads : c.readCount ≠ 0) (width : row.length = c.readCount) :
    AnsweredBy c [row]
  | counted {m : Int64} (counts : c.readCount = 0) (positive : 1 ≤ m.toInt) :
    AnsweredBy c [[.int m]]

/-- How a result set fails to answer the command at `index`. The width of the first row is checked
before a second row is looked for, and a row is judged once it is known to be the only one. -/
inductive Offence (c : Command) (index : Nat) : ResultSet → Error → Prop
  | width {row : Row} {more : List Row} (wrong : row.length ≠ c.answerWidth) :
    Offence c index (row :: more) ((Violation.width c.answerWidth row.length).toError index)
  | extraRow {row next : Row} {more : List Row} (width : row.length = c.answerWidth) :
    Offence c index (row :: next :: more) (Violation.extraRow.toError index)
  | notACount {value : Value} (counts : c.readCount = 0)
      (other : ∀ m : Int64, 0 ≤ m.toInt → value ≠ .int m) :
    Offence c index [[value]] ((Violation.notACount value.kind).toError index)
  | noneAffected (counts : c.readCount = 0) :
    Offence c index [[.int 0]] (.conflict (c.ref index) 1 0)
  | missingCount (counts : c.readCount = 0) :
    Offence c index [] (Violation.missingCount.toError index)
  | missingRow (reads : c.readCount ≠ 0) :
    Offence c index [] (.conflict (c.ref index) 1 0)

/-- The rows that a result set tells a command to have affected. One that does not answer the
command tells of none. -/
def affectedIn (c : Command) : ResultSet → Nat
  | [row] => if row.length = c.answerWidth then c.affectedBy row else 0
  | _ => 0

/-- A command to which a result set that answers it has been applied. -/
def appliedBy (c : Command) (set : ResultSet) : Applied :=
  ⟨c.withGenerated (set.headD []), c.affectedIn set⟩

end Command

namespace Reconciliation

/-- The error of the first of the commands from `index` on that the result sets do not answer, or of
a result set that is left over behind the last command. -/
inductive Fault : Nat → List Command → List ResultSet → Error → Prop
  | missingResultSet {index : Nat} {c : Command} {rest : List Command} :
    Fault index (c :: rest) [] (Violation.missingResultSet.toError index)
  | offence {index : Nat} {c : Command} {rest : List Command} {set : ResultSet}
      {sets : List ResultSet} {e : Error} (here : c.Offence index set e) :
    Fault index (c :: rest) (set :: sets) e
  | later {index : Nat} {c : Command} {rest : List Command} {set : ResultSet}
      {sets : List ResultSet} {e : Error} (answered : c.AnsweredBy set)
      (behind : Fault (index + 1) rest sets e) :
    Fault index (c :: rest) (set :: sets) e
  | unconsumed {index : Nat} {set : ResultSet} {sets : List ResultSet} :
    Fault index [] (set :: sets) (Violation.unconsumedResultSet.toError index)

/-- The result sets as a fresh cursor shows them. -/
def shown : List ResultSet → List ResultSet
  | [] => [[]]
  | set :: sets => set :: sets

end Reconciliation

namespace Command

/-! ### One command -/

theorem fieldCount_ofCommand (c : Command) :
    (ResultShape.ofCommand c).fieldCount = c.answerWidth := by
  unfold ResultShape.ofCommand answerWidth
  split
  next counts => rw [if_pos counts]; rfl
  next columns reads =>
    rw [if_neg (by omega)]
    rfl

theorem ofCommand_of_reads {c : Command} (reads : c.readCount ≠ 0) :
    ResultShape.ofCommand c = .generated c.readCount := by
  unfold ResultShape.ofCommand
  split
  next counts => exact absurd counts reads
  next => rfl

theorem rowCount?_eq_none_iff (value : Value) :
    value.rowCount? = none ↔ ∀ m : Int64, 0 ≤ m.toInt → value ≠ .int m := by
  cases value with
  | int n =>
    simp only [Value.rowCount?, ite_eq_right_iff, reduceCtorEq, imp_false, ne_eq,
      Value.int.injEq]
    constructor
    · rintro negative m positive rfl
      exact negative positive
    · exact fun other positive => other n positive rfl
  | _ => simp [Value.rowCount?]

theorem assign_of_unread {columns : List Column}
    (unread : ∀ column ∈ columns, column.flags.read = false) (values : List Value) :
    assign columns values = columns := by
  induction columns with
  | nil => rfl
  | cons column columns ih =>
    obtain ⟨here, others⟩ := List.forall_mem_cons.mp unread
    rw [assign_unread here, ih others]

/-- A command without read columns has no place for values. -/
theorem withGenerated_of_counts {c : Command} (counts : c.readCount = 0) (values : List Value) :
    c.withGenerated values = c := by
  have none : c.readColumns = [] := List.length_eq_zero_iff.mp counts
  have unread : ∀ column ∈ c.columns, column.flags.read = false := by
    simpa [readColumns] using none
  rw [withGenerated, assign_of_unread unread]

/-- A result set answers a command or fails to in one of the ways of `Offence`. -/
theorem answeredBy_or_offence (c : Command) (index : Nat) (set : ResultSet) :
    c.AnsweredBy set ∨ ∃ e, c.Offence index set e := by
  by_cases counts : c.readCount = 0
  · have one : c.answerWidth = 1 := if_pos counts
    match set with
    | [] => exact .inr ⟨_, .missingCount counts⟩
    | row :: more =>
      by_cases width : row.length = c.answerWidth
      · match more with
        | next :: more => exact .inr ⟨_, .extraRow width⟩
        | [] =>
          obtain ⟨value, rfl⟩ := List.length_eq_one_iff.mp (width.trans one)
          by_cases count : ∃ m : Int64, 0 ≤ m.toInt ∧ value = .int m
          · obtain ⟨m, natural, rfl⟩ := count
            by_cases zero : m.toInt = 0
            · obtain rfl : m = 0 := Int64.toInt_inj.mp zero
              exact .inr ⟨_, .noneAffected counts⟩
            · exact .inl (.counted counts (by omega))
          · exact .inr ⟨_, .notACount counts fun m natural same => count ⟨m, natural, same⟩⟩
      · exact .inr ⟨_, .width width⟩
  · have width : c.answerWidth = c.readCount := if_neg counts
    match set with
    | [] => exact .inr ⟨_, .missingRow counts⟩
    | row :: more =>
      by_cases full : row.length = c.answerWidth
      · match more with
        | next :: more => exact .inr ⟨_, .extraRow full⟩
        | [] => exact .inl (.generated counts (full.trans width))
      · exact .inr ⟨_, .width full⟩

/-- What reading a result set comes to. -/
def outcomeOf (c : Command) (index : Nat) : ResultSet → Except Error RowOutcome
  | [] => .ok .missing
  | row :: more =>
    if row.length = c.answerWidth then
      if more.isEmpty then c.rowOutcome index row
      else .error (Violation.extraRow.toError index)
    else .error ((Violation.width c.answerWidth row.length).toError index)

theorem checkWidth_eq_ok {c : Command} (index : Nat) {found : Nat} (full : found = c.answerWidth) :
    c.checkWidth index found = .ok () := by
  simp only [checkWidth, fieldCount_ofCommand, if_pos full]

theorem checkWidth_eq_error {c : Command} (index : Nat) {found : Nat}
    (wrong : found ≠ c.answerWidth) :
    c.checkWidth index found = .error ((Violation.width c.answerWidth found).toError index) := by
  simp only [checkWidth, fieldCount_ofCommand, if_neg wrong]

section Reading

variable {σ : Type} {A : Surroundings σ} {c : Command} {index : Nat} {cursor : Cursor}

theorem readValues_reads (cursor : Cursor) {row : Row} (stands : cursor.row = some row)
    {ordinal count : Nat} (fits : ordinal + count ≤ row.length) :
    (readValues ordinal count).run.Reads A cursor (.ok ((row.drop ordinal).take count)) cursor := by
  induction count generalizing ordinal with
  | zero =>
    rw [List.take_zero]
    exact Program.reads_done _
  | succ count ih =>
    have inside : ordinal < row.length := by omega
    have here : cursor.value ordinal = .ok row[ordinal] := by
      simp [Cursor.value, stands, inside]
    have first := Program.reads_call A cursor (.value ordinal)
    simp only [Cursor.serve, here] at first
    rw [List.drop_eq_getElem_cons inside, List.take_succ_cons]
    exact first.attempt_bind ((ih (by omega)).attempt_bind (Program.reads_done _))

/-- Reading a result set uses up its rows and none of the sets behind it. -/
theorem readOutcome_reads (c : Command) (index : Nat) (set : ResultSet) (later : List ResultSet)
    (row : Option Row) :
    ∃ after : Cursor, after.later = later ∧
      (c.readOutcome index).run.Reads A ⟨set, later, row⟩ (c.outcomeOf index set) after := by
  cases set with
  | nil =>
    exact ⟨_, rfl, (Program.reads_call A _ .nextRow).attempt_bind (Program.reads_done _)⟩
  | cons first more =>
    have entered := Program.reads_call A ⟨first :: more, later, row⟩ .nextRow
    have counted := Program.reads_fieldCount A ⟨more, later, some first⟩
    by_cases full : first.length = c.answerWidth
    · rw [outcomeOf, if_pos full]
      -- the width has been checked, so every value asked for is there
      have checked := Program.reads_liftExcept (A := A) ⟨more, later, some first⟩
        (checkWidth_eq_ok index full)
      have values := readValues_reads (A := A) ⟨more, later, some first⟩ rfl
        (Nat.le_of_eq (Nat.zero_add first.length))
      rw [List.drop_zero, List.take_length, full, ← fieldCount_ofCommand] at values
      have left := Program.reads_call A ⟨more, later, some first⟩ .nextRow
      cases more with
      | nil =>
        exact ⟨⟨[], later, none⟩, rfl, entered.attempt_bind (counted.lift.attempt_bind
          (checked.attempt_bind (values.attempt_bind (left.attempt_bind
            (Program.reads_liftExcept _ rfl)))))⟩
      | cons next more =>
        exact ⟨⟨more, later, some next⟩, rfl, entered.attempt_bind (counted.lift.attempt_bind
          (checked.attempt_bind (values.attempt_bind (left.attempt_bind
            (Program.reads_done _)))))⟩
    · rw [outcomeOf, if_neg full]
      have checked := Program.reads_liftExcept (A := A) ⟨more, later, some first⟩
        (checkWidth_eq_error index full)
      exact ⟨⟨more, later, some first⟩, rfl,
        entered.attempt_bind (counted.lift.attempt_bind checked.attempt_stop)⟩

theorem complete_generated (reads : c.readCount ≠ 0) {values : List Value}
    (full : values.length = c.readCount) :
    (c.complete index (.generated values)).run.Reads A cursor
      (.ok ⟨c.withGenerated values, 1⟩) cursor := by
  simp only [complete, ofCommand_of_reads reads, applyGenerated, full, ne_eq, not_true_eq_false,
    if_false]
  refine Program.Reads.attempt_bind ?_
    ((Program.reads_record _).lift.attempt_bind (Program.reads_done _))
  refine Program.Reads.attempt_bind (Program.Reads.forM _ fun pair => ?_) (Program.reads_done _)
  exact (Program.reads_writeBack _ _ _).lift

theorem complete_affected (counts : c.readCount = 0) {rows : Nat} (positive : 0 < rows) :
    (c.complete index (.affected rows)).run.Reads A cursor (.ok ⟨c, rows⟩) cursor := by
  simp only [complete, ofCommand_eq_affectedCount_iff.mpr counts, if_pos positive]
  exact (Program.reads_record _).lift.attempt_bind (Program.reads_done _)

theorem complete_conflict (counts : c.readCount = 0) :
    (c.complete index (.affected 0)).run.Reads A cursor (.error (.conflict (c.ref index) 1 0))
      cursor := by
  simp only [complete, ofCommand_eq_affectedCount_iff.mpr counts, if_neg (Nat.lt_irrefl 0)]
  exact Program.reads_done _

theorem rowOutcome_of_counts (counts : c.readCount = 0) (value : Value) :
    c.rowOutcome index [value] =
      match value.rowCount? with
      | some rows => .ok (.affected rows)
      | none => .error ((Violation.notACount value.kind).toError index) := by
  simp only [rowOutcome, ofCommand_eq_affectedCount_iff.mpr counts]
  rfl

theorem appliedBy_generated (reads : c.readCount ≠ 0) {row : Row}
    (width : row.length = c.readCount) : c.appliedBy [row] = ⟨c.withGenerated row, 1⟩ := by
  have wide : row.length = c.answerWidth := width.trans (if_neg reads).symm
  simp [appliedBy, affectedIn, wide, affectedBy, reads]

theorem appliedBy_counted (counts : c.readCount = 0) {m : Int64} (natural : 0 ≤ m.toInt) :
    c.appliedBy [[.int m]] = ⟨c, m.toInt.toNat⟩ := by
  have one : c.answerWidth = 1 := if_pos counts
  have same := withGenerated_of_counts counts [.int m]
  simp [appliedBy, affectedIn, one, affectedBy, counts, Value.rowCount?, natural, same]

/-- A result set that answers a command is read and applied. -/
theorem reads_of_answered (index : Nat) {set : ResultSet} (answered : c.AnsweredBy set)
    (later : List ResultSet) (row : Option Row) :
    ∃ after : Cursor, after.later = later ∧
      (c.readOutcome index >>= c.complete index).run.Reads A ⟨set, later, row⟩
        (.ok (c.appliedBy set)) after := by
  obtain ⟨after, behind, read⟩ := readOutcome_reads (A := A) c index set later row
  cases answered with
  | @generated full reads width =>
    have judged : c.outcomeOf index [full] = .ok (.generated full) := by
      have wide : full.length = c.answerWidth := width.trans (if_neg reads).symm
      simp [outcomeOf, wide, rowOutcome, ofCommand_of_reads reads]
    rw [judged] at read
    rw [appliedBy_generated reads width]
    exact ⟨after, behind, read.attempt_bind (complete_generated reads width)⟩
  | @counted m counts positive =>
    have natural : 0 ≤ m.toInt := by omega
    have judged : c.outcomeOf index [[.int m]] = .ok (.affected m.toInt.toNat) := by
      have one : c.answerWidth = 1 := if_pos counts
      simp [outcomeOf, one, rowOutcome_of_counts counts, Value.rowCount?, natural]
    rw [judged] at read
    rw [appliedBy_counted counts natural]
    exact ⟨after, behind, read.attempt_bind (complete_affected counts (by omega))⟩

/-- A result set that offends is reported with the error of its offence. -/
theorem reads_of_offence {set : ResultSet} {e : Error} (offence : c.Offence index set e)
    (later : List ResultSet) (row : Option Row) :
    ∃ after : Cursor,
      (c.readOutcome index >>= c.complete index).run.Reads A ⟨set, later, row⟩ (.error e)
        after := by
  obtain ⟨after, -, read⟩ := readOutcome_reads (A := A) c index set later row
  cases offence with
  | width wrong =>
    rw [outcomeOf, if_neg wrong] at read
    exact ⟨after, read.attempt_stop⟩
  | extraRow width =>
    rw [outcomeOf, if_pos width] at read
    exact ⟨after, read.attempt_stop⟩
  | @notACount value counts other =>
    have judged : c.outcomeOf index [[value]] =
        .error ((Violation.notACount value.kind).toError index) := by
      have one : c.answerWidth = 1 := if_pos counts
      have none := (rowCount?_eq_none_iff value).mpr other
      simp [outcomeOf, one, rowOutcome_of_counts counts, none]
    rw [judged] at read
    exact ⟨after, read.attempt_stop⟩
  | noneAffected counts =>
    have judged : c.outcomeOf index [[.int 0]] = .ok (.affected 0) := by
      have one : c.answerWidth = 1 := if_pos counts
      simp [outcomeOf, one, rowOutcome_of_counts counts, Value.rowCount?]
    rw [judged] at read
    exact ⟨after, read.attempt_bind (complete_conflict counts)⟩
  | missingCount counts =>
    refine ⟨after, read.attempt_bind ?_⟩
    simp only [complete, ofCommand_eq_affectedCount_iff.mpr counts]
    exact Program.reads_done _
  | missingRow reads =>
    refine ⟨after, read.attempt_bind ?_⟩
    simp only [complete, ofCommand_of_reads reads]
    exact Program.reads_done _

end Reading

end Command

/-! ### The whole stream -/

/-- The result sets a cursor has for the commands from `index` on: the first command of all reads
the set the cursor stands on, every other one moves to its own. -/
def Cursor.Faces (cursor : Cursor) (index : Nat) (sets : List ResultSet) : Prop :=
  sets = if index = 0 then cursor.ahead :: cursor.later else cursor.later

namespace Reconciliation

section Streams

variable {σ : Type} {A : Surroundings σ} {c : Command} {cursor : Cursor} {index : Nat}

/-- A command moves to the result set that is next for it and reads there. -/
theorem reconcile_enters {set : ResultSet} {sets : List ResultSet}
    (faces : cursor.Faces index (set :: sets)) :
    ∃ row, ∀ {result : Except Error Applied} {after : Cursor},
      (c.readOutcome index >>= c.complete index).run.Reads A ⟨set, sets, row⟩ result after →
        (c.reconcile index).run.Reads A cursor result after := by
  unfold Command.reconcile
  by_cases first : index = 0
  · subst first
    rw [Cursor.Faces, if_pos rfl, List.cons.injEq] at faces
    obtain ⟨rfl, rfl⟩ := faces
    exact ⟨cursor.row, fun reads => reads⟩
  · rw [Cursor.Faces, if_neg first] at faces
    have moved := Program.reads_call A cursor .nextSet
    simp only [Cursor.serve, Cursor.nextSet, ← faces] at moved
    rw [if_pos (Nat.pos_of_ne_zero first)]
    exact ⟨none, fun reads => moved.attempt_bind reads⟩

/-- Behind the last result set there is none to move to. -/
theorem reconcile_missing (faces : cursor.Faces index []) :
    ∃ after : Cursor, (c.reconcile index).run.Reads A cursor
      (.error (Violation.missingResultSet.toError index)) after := by
  unfold Command.reconcile
  by_cases first : index = 0
  · rw [Cursor.Faces, if_pos first] at faces
    cases faces
  · rw [Cursor.Faces, if_neg first] at faces
    have moved := Program.reads_call A cursor .nextSet
    simp only [Cursor.serve, Cursor.nextSet, ← faces] at moved
    rw [if_pos (Nat.pos_of_ne_zero first)]
    exact ⟨_, moved.attempt_bind (Program.reads_done _)⟩

theorem reconcile_answered {set : ResultSet} {sets : List ResultSet}
    (faces : cursor.Faces index (set :: sets)) (answered : c.AnsweredBy set) :
    ∃ after : Cursor, after.Faces (index + 1) sets ∧
      (c.reconcile index).run.Reads A cursor (.ok (c.appliedBy set)) after := by
  obtain ⟨row, entered⟩ := reconcile_enters (A := A) (c := c) faces
  obtain ⟨after, later, reads⟩ := Command.reads_of_answered (A := A) index answered sets row
  exact ⟨after, by simp [Cursor.Faces, later], entered reads⟩

theorem reconcile_offence {set : ResultSet} {sets : List ResultSet} {e : Error}
    (faces : cursor.Faces index (set :: sets)) (offence : c.Offence index set e) :
    ∃ after : Cursor, (c.reconcile index).run.Reads A cursor (.error e) after := by
  obtain ⟨row, entered⟩ := reconcile_enters (A := A) (c := c) faces
  obtain ⟨after, reads⟩ := Command.reads_of_offence (A := A) offence sets row
  exact ⟨after, entered reads⟩

variable {applied : List Applied} {pending : List Command} {sets : List ResultSet}

theorem walk_nil (faces : cursor.Faces applied.length sets) (begun : applied ≠ []) :
    ∃ after : Cursor, (walk applied []).Reads A cursor
      (⟨applied, []⟩, if sets.isEmpty then .ok ()
        else .error (Violation.unconsumedResultSet.toError applied.length)) after := by
  rw [Cursor.Faces, if_neg (by simpa using begun)] at faces
  have moved := Program.reads_call A cursor .nextSet
  simp only [Cursor.serve, Cursor.nextSet, ← faces] at moved
  cases sets with
  | nil => exact ⟨_, (moved.attempt_bind (Program.reads_done _)).bind (Program.reads_done _)⟩
  | cons set sets =>
    exact ⟨_, (moved.attempt_bind (Program.reads_done _)).bind (Program.reads_done _)⟩

/-- Result sets that answer the pending commands one by one are accepted. -/
theorem walk_answered (applied : List Applied)
    (answered : List.Forall₂ Command.AnsweredBy pending sets)
    (faces : cursor.Faces applied.length sets) (some : applied ≠ [] ∨ pending ≠ []) :
    ∃ (r : Reconciliation) (after : Cursor),
      (walk applied pending).Reads A cursor (r, .ok ()) after := by
  induction answered generalizing applied cursor with
  | nil =>
    obtain ⟨after, ended⟩ := walk_nil (A := A) faces (by simpa using some)
    exact ⟨_, after, ended⟩
  | cons here _ ih =>
    obtain ⟨between, behind, reconciled⟩ := reconcile_answered (A := A) faces here
    obtain ⟨r, after, rest⟩ :=
      ih (applied ++ [_]) (by simpa using behind) (.inl (by simp))
    exact ⟨r, after, reconciled.bind rest⟩

/-- A fault among the result sets ends the walk with its error. -/
theorem walk_fault (applied : List Applied) {e : Error} (fault : Fault index pending sets e)
    (place : index = applied.length) (faces : cursor.Faces index sets)
    (some : applied ≠ [] ∨ pending ≠ []) :
    ∃ (r : Reconciliation) (after : Cursor),
      (walk applied pending).Reads A cursor (r, .error e) after := by
  induction fault generalizing applied cursor with
  | missingResultSet =>
    subst place
    obtain ⟨after, missing⟩ := reconcile_missing (A := A) faces
    exact ⟨_, after, missing.bind (Program.reads_done _)⟩
  | offence here =>
    subst place
    obtain ⟨after, offended⟩ := reconcile_offence (A := A) faces here
    exact ⟨_, after, offended.bind (Program.reads_done _)⟩
  | later answered _ ih =>
    subst place
    obtain ⟨between, behind, reconciled⟩ := reconcile_answered (A := A) faces answered
    obtain ⟨r, after, rest⟩ :=
      ih (applied ++ [_]) (by simp) behind (.inl (by simp))
    exact ⟨r, after, reconciled.bind rest⟩
  | unconsumed =>
    subst place
    obtain ⟨after, ended⟩ := walk_nil (A := A) faces (by simpa using some)
    exact ⟨_, after, ended⟩

end Streams

/-- Result sets answer commands one by one, or there is a fault. -/
theorem answered_or_fault (index : Nat) (commands : List Command) (sets : List ResultSet) :
    List.Forall₂ Command.AnsweredBy commands sets ∨ ∃ e, Fault index commands sets e := by
  induction commands generalizing index sets with
  | nil =>
    cases sets with
    | nil => exact .inl .nil
    | cons set sets => exact .inr ⟨_, .unconsumed⟩
  | cons c rest ih =>
    cases sets with
    | nil => exact .inr ⟨_, .missingResultSet⟩
    | cons set sets =>
      rcases c.answeredBy_or_offence index set with answered | ⟨e, offence⟩
      · rcases ih (index + 1) sets with others | ⟨e, behind⟩
        · exact .inl (.cons answered others)
        · exact .inr ⟨e, .later answered behind⟩
      · exact .inr ⟨e, .offence offence⟩

theorem answered_shown_iff {commands : List Command} (some : commands ≠ [])
    (sets : List ResultSet) :
    List.Forall₂ Command.AnsweredBy commands (shown sets) ↔
      List.Forall₂ Command.AnsweredBy commands sets := by
  cases sets with
  | cons set sets => exact Iff.rfl
  | nil =>
    constructor
    · intro answered
      cases answered with
      | cons here _ => nomatch here
    · intro answered
      exact absurd (List.forall₂_nil_right_iff.mp answered) some

theorem ofSets_faces (sets : List ResultSet) : (Cursor.ofSets sets).Faces 0 (shown sets) := by
  cases sets <;> rfl

/-- Fresh results held in memory are accepted exactly if they answer the commands one by one, and
otherwise the walk ends with the error of the first fault among the result sets shown. -/
theorem consume_judges {σ : Type} (A : Surroundings σ) (s : σ) {commands : List Command}
    (some : commands ≠ []) (sets : List ResultSet) :
    let result := ((start commands).consume.play A.overCursor (Cursor.ofSets sets, s)).result.2
    (result = .ok () ↔ List.Forall₂ Command.AnsweredBy commands sets) ∧
      ∀ e, result = .error e ↔ Fault 0 commands (shown sets) e := by
  intro result
  -- both directions follow from these two, since the sets either answer or have a fault
  have accepts (answered : List.Forall₂ Command.AnsweredBy commands sets) : result = .ok () := by
    obtain ⟨r, after, reads⟩ := walk_answered (A := A) []
      ((answered_shown_iff some sets).mpr answered) (ofSets_faces sets) (.inr some)
    exact congrArg Prod.snd (reads s).1
  have refuses (e : Error) (fault : Fault 0 commands (shown sets) e) : result = .error e := by
    obtain ⟨r, after, reads⟩ :=
      walk_fault (A := A) [] fault rfl (ofSets_faces sets) (.inr some)
    exact congrArg Prod.snd (reads s).1
  constructor
  · refine ⟨fun accepted => ?_, accepts⟩
    rcases answered_or_fault 0 commands (shown sets) with answered | ⟨e, fault⟩
    · exact (answered_shown_iff some sets).mp answered
    · rw [refuses e fault] at accepted
      cases accepted
  · refine fun e => ⟨fun failed => ?_, refuses e⟩
    rcases answered_or_fault 0 commands (shown sets) with answered | ⟨e', fault⟩
    · rw [accepts ((answered_shown_iff some sets).mp answered)] at failed
      cases failed
    · rw [refuses e' fault] at failed
      cases failed
      exact fault

/-- One generated key for one insert is accepted and leaves no fault. -/
theorem consume_judges_generated_key :
    [Command.identityInsert 0] ≠ [] ∧
      let result := ((start [Command.identityInsert 0]).consume.play
        (Surroundings.scripted (Dialect.plain atPlaceholder)).overCursor
        (Cursor.ofSets [[[.int 7]]], {})).result.2
      (result = .ok () ↔ List.Forall₂ Command.AnsweredBy [Command.identityInsert 0] [[[.int 7]]]) ∧
        ∀ e, result = .error e ↔ Fault 0 [Command.identityInsert 0] (shown [[[.int 7]]]) e :=
  ⟨by decide, consume_judges _ _ (by decide) _⟩

/-- Without any result set, the row of a first insert with a generated key is missing; that its
result set is missing is not what the walk ends with. -/
theorem consume_without_result_sets :
    let result := ((start [Command.identityInsert 0]).consume.play
      (Surroundings.scripted (Dialect.plain atPlaceholder)).overCursor
      (Cursor.ofSets [], {})).result.2
    Fault 0 [Command.identityInsert 0] [] (Violation.missingResultSet.toError 0) ∧
      result = .error (.conflict ((Command.identityInsert 0).ref 0) 1 0) ∧
      result ≠ .error (Violation.missingResultSet.toError 0) := by
  intro result
  have conflict : result = .error (.conflict ((Command.identityInsert 0).ref 0) 1 0) := rfl
  refine ⟨.missingResultSet, conflict, ?_⟩
  rw [conflict]
  decide

end Reconciliation

end BatchedSave
