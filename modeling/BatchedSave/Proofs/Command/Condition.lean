import BatchedSave.Proofs.Batch.History
import BatchedSave.Proofs.Command.Columns
import BatchedSave.Proofs.Program.Masking

/-!
# The condition of a change

An update or delete without a condition would change every row of its table. Half of what prevents
this is checked when a column is added, half of it when the command is tried on a batch: `Proper`
says what every single column is like, `Suited` what the columns are like together, and
`Addressed` what follows for the condition and the values that are bound for it. Generated values do
not get into the condition, so a command that has received some is as it was before (`Keeps`).
-/
namespace BatchedSave

namespace Command

/-- The columns suit the kind of change. -/
inductive Suited (c : Command) : Prop
  | insert (kind : c.kind = .insert) (filled : c.columns ≠ [])
      (unasked : ∀ column ∈ c.columns, column.flags.condition = false)
  | update (kind : c.kind = .update) (found : ∃ column ∈ c.columns, column.flags.condition = true)
      (changed : ∃ column ∈ c.columns, column.flags.write = true)
  | delete (kind : c.kind = .delete) (found : ∃ column ∈ c.columns, column.flags.condition = true)
      (idle : ∀ column ∈ c.columns, column.flags.write = false ∧ column.flags.read = false)

/-- The column's value is bound for the command, under the placeholder of a name. -/
def Binds (c : Command) (placeholder : String → String) (column : Column) (name : Option String)
    (value : Value) : Prop :=
  ∃ given, name = some given ∧
    (⟨placeholder given, value, column.mapping, column.nullable⟩ : Parameter) ∈
      c.parameters placeholder

/-- The row to change or delete is found by a condition whose values are bound: the current value of
a key, which is known beforehand, the former one of any other column. An insert has no condition. An
update writes something, what is written is bound, and a delete only finds its row. -/
structure Addressed (c : Command) (placeholder : String → String) : Prop where
  found : c.kind ≠ .insert → ∃ column ∈ c.columns, column.flags.condition = true
  byKey : ∀ column ∈ c.columns, column.flags.condition = true → column.flags.key = true →
    column.flags.read = false ∧ c.Binds placeholder column column.currentParameter column.value
  byFormer : ∀ column ∈ c.columns, column.flags.condition = true → column.flags.key = false →
    c.Binds placeholder column column.formerParameter column.former
  new : c.kind = .insert → ∀ column ∈ c.columns,
    column.flags.condition = false ∧ column.formerParameter = none
  changed : c.kind = .update → ∃ column ∈ c.columns, column.flags.write = true
  carried : ∀ column ∈ c.columns, column.flags.write = true →
    c.Binds placeholder column column.currentParameter column.value
  counted : c.kind = .delete → ResultShape.ofCommand c = .affectedCount ∧
    ∀ column ∈ c.columns, column.flags.write = false ∧ column.flags.read = false

/-- `c'` is `c` but for values of columns, none of which is a key that finds the row. -/
structure Keeps (c c' : Command) (placeholder : String → String) : Prop where
  fields : c' = { c with columns := c'.columns }
  columns : List.Forall₂ (fun column column' =>
    column' = { column with value := column'.value } ∧
      (column.flags.condition = true → column.flags.key = true → column'.value = column.value))
    c.columns c'.columns
  named : (c'.parameters placeholder).map (·.name) = (c.parameters placeholder).map (·.name)
  counted : c'.parameterCount = c.parameterCount
  validated : c'.validate = c.validate

theorem unless_refused_iff {p : Prop} [Decidable p] {refusal : Refusal}
    {rest : Except Refusal Unit} :
    (if p then .error refusal else rest) = .ok () ↔ ¬ p ∧ rest = .ok () := by
  by_cases h : p <;> simp [h]

theorem validate_ok_iff {c : Command} : c.validate = .ok () ↔ c.Suited := by
  unfold validate
  constructor
  · intro valid
    cases kind : c.kind with
    | insert =>
      have ⟨unasked, filled⟩ : (∀ column ∈ c.columns, column.flags.condition = false) ∧
          c.columns ≠ [] := by simpa [kind, unless_refused_iff] using valid
      exact .insert kind filled unasked
    | update =>
      have ⟨found, changed⟩ : (∃ column ∈ c.columns, column.flags.condition = true) ∧
          ∃ column ∈ c.columns, column.flags.write = true := by
        simpa [kind, unless_refused_iff] using valid
      exact .update kind found changed
    | delete =>
      have ⟨found, unwritten, unread⟩ : (∃ column ∈ c.columns, column.flags.condition = true) ∧
          (∀ column ∈ c.columns, column.flags.write = false) ∧
          ∀ column ∈ c.columns, column.flags.read = false := by
        simpa [kind, unless_refused_iff] using valid
      exact .delete kind found fun column member => ⟨unwritten column member, unread column member⟩
  · rintro (⟨kind, filled, unasked⟩ | ⟨kind, found, changed⟩ | ⟨kind, found, idle⟩)
    · simpa [kind, unless_refused_iff] using And.intro unasked filled
    · simpa [kind, unless_refused_iff] using And.intro found changed
    · simpa [kind, unless_refused_iff, forall_and] using And.intro found idle

variable {c : Command} {column : Column}

theorem binds_current (placeholder : String → String) (member : column ∈ c.columns)
    (bound : column.currentParameter.isSome) :
    c.Binds placeholder column column.currentParameter column.value := by
  obtain ⟨name, given⟩ := Option.isSome_iff_exists.mp bound
  refine ⟨name, given, List.mem_flatMap.mpr ⟨column, member, List.mem_append_left _ ?_⟩⟩
  simp [given]

theorem binds_former (placeholder : String → String) (member : column ∈ c.columns)
    (bound : column.formerParameter.isSome) :
    c.Binds placeholder column column.formerParameter column.former := by
  obtain ⟨name, given⟩ := Option.isSome_iff_exists.mp bound
  refine ⟨name, given, List.mem_flatMap.mpr ⟨column, member, List.mem_append_right _ ?_⟩⟩
  simp [given]

/-- Columns that were checked one by one and together address the row. -/
theorem Suited.addressed (suited : c.Suited) (proper : ∀ column ∈ c.columns, column.Proper)
    (placeholder : String → String) : c.Addressed placeholder where
  found named := by
    rcases suited with ⟨kind, -, -⟩ | ⟨-, found, -⟩ | ⟨-, found, -⟩
    · exact absurd kind named
    · exact found
    · exact found
  byKey column member condition key := by
    have bound := (proper column member).current.mpr (.inr ⟨key, condition⟩)
    exact ⟨(proper column member).known key condition, binds_current placeholder member bound⟩
  byFormer column member condition other :=
    binds_former placeholder member ((proper column member).former.mpr ⟨condition, other⟩)
  new kind column member := by
    rcases suited with ⟨-, -, unasked⟩ | ⟨other, -, -⟩ | ⟨other, -, -⟩
    · have unasked := unasked column member
      refine ⟨unasked, Option.not_isSome_iff_eq_none.mp fun bound => ?_⟩
      have condition := ((proper column member).former.mp bound).1
      rw [unasked] at condition
      cases condition
    · cases kind.symm.trans other
    · cases kind.symm.trans other
  changed kind := by
    rcases suited with ⟨other, -, -⟩ | ⟨-, -, changed⟩ | ⟨other, -, -⟩
    · cases kind.symm.trans other
    · exact changed
    · cases kind.symm.trans other
  carried column member written :=
    binds_current placeholder member ((proper column member).current.mpr (.inl written))
  counted kind := by
    rcases suited with ⟨other, -, -⟩ | ⟨other, -, -⟩ | ⟨-, -, idle⟩
    · cases kind.symm.trans other
    · cases kind.symm.trans other
    · refine ⟨ofCommand_eq_affectedCount_iff.mpr (List.length_eq_zero_iff.mpr ?_), idle⟩
      exact List.filter_eq_nil_iff.mpr fun column member => by simp [(idle column member).2]

/-! ### Generated values -/

/-- What a column is for does not depend on its values. -/
theorem proper_of_masked {columns columns' : List Column}
    (same : columns'.map (·.masked) = columns.map (·.masked))
    (proper : ∀ column ∈ columns, column.Proper) : ∀ column ∈ columns', column.Proper := by
  intro column member
  obtain ⟨before, earlier, alike⟩ : ∃ before ∈ columns, before.masked = column.masked :=
    List.mem_map.mp (same ▸ List.mem_map_of_mem member)
  obtain ⟨current, former, known⟩ : before.masked.Proper :=
    ⟨(proper before earlier).current, (proper before earlier).former,
      (proper before earlier).known⟩
  rw [alike] at current former known
  exact ⟨current, former, known⟩

theorem keeps_withGenerated (proper : ∀ column ∈ c.columns, column.Proper)
    (placeholder : String → String) (values : List Value) :
    c.Keeps (c.withGenerated values) placeholder := by
  have same := c.masked_withGenerated values
  refine ⟨rfl, ?_, ?_, parameterCount_congr same, validate_congr same⟩
  · have assigned := (List.forall₂_and_left _ _).mpr ⟨proper, assign_columns c.columns values⟩
    refine assigned.imp fun column column' ⟨proper, received⟩ => ?_
    cases read : column.flags.read with
    | false =>
      obtain rfl : column' = column := by simpa [read] using received
      exact ⟨rfl, fun _ _ => rfl⟩
    | true =>
      rw [read, if_pos rfl] at received
      refine ⟨received, fun condition key => ?_⟩
      cases read.symm.trans (proper.known key condition)
  · have blind (c : Command) : (c.parameters placeholder).map (·.name) =
        ((c.masked.parameters placeholder).map (·.masked)).map (·.name) := by
      rw [← c.masked_parameters placeholder, List.map_map]
      rfl
    rw [blind, same, ← blind]

end Command

/-- Whatever columns a command was given, if a batch accepts it, its row is found by a condition
whose values are bound. Generated values do not change that: a row of the wrong width is refused and
nothing is written back, after any other the command finds the same row by the same condition. -/
theorem Batch.added_addressed {b after : Batch} {c : Command} {trace : List Exchange}
    (built : c.Built) (accepted : (b.tryAdd c).Runs trace (after, .ok .added)) :
    c.Addressed b.placeholder ∧
      ∀ {index : Nat} {values : List Value} {writing : List Exchange}
        {result : Except Error Command},
        (c.applyGenerated index values).run.Runs writing result →
          (values.length ≠ c.readCount ∧ (∃ e, result = .error e) ∧ writeBacks writing = []) ∨
          ∃ c', result = .ok c' ∧ c.Keeps c' b.placeholder ∧ c'.Addressed b.placeholder := by
  have valid : c.validate = .ok () := by
    cases tryAdd_runs accepted with
    | added valid => exact valid
  have proper := built.proper
  refine ⟨(Command.validate_ok_iff.mp valid).addressed proper _, fun {_ values _ _} run => ?_⟩
  obtain ⟨-, ⟨wrong, refused, nothing⟩ | ⟨-, same, -⟩⟩ := applyGenerated_effects run
  · exact .inl ⟨wrong, refused, nothing⟩
  · have kept := Command.keeps_withGenerated proper b.placeholder values
    have suited := Command.validate_ok_iff.mp (kept.validated.trans valid)
    have proper := Command.proper_of_masked
      (congrArg (·.columns) (c.masked_withGenerated values)) proper
    exact .inr ⟨_, same, kept, suited.addressed proper _⟩

/-- An update that the store answers with a stamp and that is guarded by its version. -/
theorem Batch.added_addressed_stamped :
    ∃ (b after : Batch) (c c' : Command) (trace writing : List Exchange), c.Built ∧
      (b.tryAdd c).Runs trace (after, .ok .added) ∧
      (c.applyGenerated 0 [.int 9]).run.Runs writing (.ok c') ∧ c' ≠ c ∧
      c.Addressed b.placeholder ∧ c.Keeps c' b.placeholder ∧ c'.Addressed b.placeholder := by
  let int : TypeMapping := ⟨"INTEGER", .int64⟩
  let key : ColumnSpec := ⟨"id", int, .keyCondition, .int 7, .null, false⟩
  let version : ColumnSpec := ⟨"version", int, Flags.guardToken.withWrite, .int 2, .int 1, true⟩
  let stamp : ColumnSpec := ⟨"stamp", int, .generated, .null, .null, true⟩
  let found : Column := ⟨"id", int, key.flags, .int 7, .null, false, some "p0", none⟩
  let guarded : Column :=
    ⟨"version", int, version.flags, .int 2, .int 1, true, some "p1", some "p2"⟩
  let stamped : Column := ⟨"stamp", int, stamp.flags, .null, .null, true, none, none⟩
  let begun : Command := Command.blank "users" none .update 0
  have first : begun.addColumn key .fresh = .ok ({ begun with columns := [found] }, ⟨1⟩) := by
    decide
  have second : Command.addColumn { begun with columns := [found] } version ⟨1⟩ =
      .ok ({ begun with columns := [found, guarded] }, ⟨3⟩) := by decide
  have third : Command.addColumn { begun with columns := [found, guarded] } stamp ⟨3⟩ =
      .ok ({ begun with columns := [found, guarded, stamped] }, ⟨3⟩) := by decide
  have blank := Command.Built.blank "users" none .update 0
  have built := ((blank.added first).added second).added third
  let b : Batch := fresh atPlaceholder (.caps 1 3) {}
  have added : (b.tryAdd { begun with columns := [found, guarded, stamped] }).Runs
      [⟨.header, "-- batch"⟩] (_, .ok .added) := .exchange ⟨.header, _⟩ (.done _)
  have wrote : (Command.applyGenerated { begun with columns := [found, guarded, stamped] } 0
      [.int 9]).run.Runs [⟨.writeBack 0 "stamp" (.int 9), ()⟩] (.ok _) :=
    .exchange ⟨.writeBack 0 "stamp" (.int 9), ()⟩ (.done _)
  obtain ⟨addressed, applied⟩ := added_addressed built added
  obtain ⟨wide, -⟩ | ⟨c', same, keeps, still⟩ := applied wrote
  · exact absurd rfl wide
  · cases same
    exact ⟨b, _, _, _, _, _, built, added, wrote, by decide, addressed, keeps, still⟩

end BatchedSave
