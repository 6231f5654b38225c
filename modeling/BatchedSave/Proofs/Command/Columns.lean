import BatchedSave.Proofs.Batch.Naming

/-!
# The columns of a command

A command gets its columns one by one. `addColumn_error_iff` says when a column is refused and why,
`addColumn_adds` what becomes of one that is not: it enters behind the others as it was described,
and the parameters it binds are named by what it is for. Hence what holds of every column that was
ever added holds of every command that can be built at all (`Built.proper`, `Built.distinct`).
-/
namespace BatchedSave

/-- Why a column is refused a place in a command: the command has a column of this name, the column
takes no part in the change, or the store is yet to generate the key that would have to find the
row. The name is looked at first. -/
inductive Command.Refuses (c : Command) (spec : ColumnSpec) : Refusal → Prop
  | duplicate (taken : spec.name ∈ c.columns.map (·.name)) :
    Refuses c spec (.duplicateColumn spec.name c.table)
  | idle (untaken : spec.name ∉ c.columns.map (·.name)) (unread : spec.flags.read = false)
      (unwritten : spec.flags.write = false) (unasked : spec.flags.condition = false) :
    Refuses c spec (.idleColumn spec.name)
  | generatedKey (untaken : spec.name ∉ c.columns.map (·.name)) (read : spec.flags.read = true)
      (key : spec.flags.key = true) (condition : spec.flags.condition = true) :
    Refuses c spec (.generatedKeyCondition spec.name)

namespace Column

/-- What a column of a command is like. Its current value has a parameter if it is written or finds
the row by the key, its former value if it guards the row. A key that finds the row is not read
back. -/
structure Proper (column : Column) : Prop where
  current : column.currentParameter.isSome ↔
    column.flags.write = true ∨ column.flags.key = true ∧ column.flags.condition = true
  former : column.formerParameter.isSome ↔
    column.flags.condition = true ∧ column.flags.key = false
  known : column.flags.key = true → column.flags.condition = true → column.flags.read = false

/-- The column is the described one, with names for its parameters. -/
def IsOf (column : Column) (spec : ColumnSpec) : Prop :=
  column =
    { name := spec.name, mapping := spec.mapping, flags := spec.flags, value := spec.value
      former := spec.former, nullable := spec.nullable
      currentParameter := column.currentParameter, formerParameter := column.formerParameter }

theorem ofSpec_error_iff {spec : ColumnSpec} {names : NameSupply} {refusal : Refusal} :
    Column.ofSpec spec names = .error refusal ↔
      (refusal = .idleColumn spec.name ∧ spec.flags.read = false ∧ spec.flags.write = false ∧
        spec.flags.condition = false) ∨
      (refusal = .generatedKeyCondition spec.name ∧ spec.flags.read = true ∧
        spec.flags.key = true ∧ spec.flags.condition = true) := by
  obtain ⟨name, mapping, ⟨key, condition, read, write⟩, value, former, nullable⟩ := spec
  cases key <;> cases condition <;> cases read <;> cases write <;> simp [Column.ofSpec, eq_comm]

theorem ofSpec_isOf {spec : ColumnSpec} {names names' : NameSupply} {column : Column}
    (made : Column.ofSpec spec names = .ok (column, names')) :
    column.IsOf spec ∧ column.Proper := by
  simp only [Column.ofSpec] at made
  split at made
  · cases made
  split at made
  · cases made
  next unrefused =>
    cases made
    refine ⟨rfl, ?_, ?_, fun key condition => ?_⟩
    · cases bound : spec.flags.bindsCurrent <;>
        simpa [NameSupply.takeIf, Flags.bindsCurrent] using bound
    · cases bound : spec.flags.bindsFormer <;>
        simpa [NameSupply.takeIf, Flags.bindsFormer] using bound
    · have key : spec.flags.key = true := key
      have condition : spec.flags.condition = true := condition
      exact Bool.eq_false_iff.mpr fun read : spec.flags.read = true =>
        unrefused (by rw [read, key, condition]; rfl)

end Column

namespace Command

variable {c c' : Command} {spec : ColumnSpec} {names names' : NameSupply}

/-- A column is refused just for one of these reasons, the first one of them that there is. -/
theorem addColumn_error_iff {refusal : Refusal} :
    c.addColumn spec names = .error refusal ↔ c.Refuses spec refusal := by
  have named : c.columns.any (·.name == spec.name) = true ↔
      spec.name ∈ c.columns.map (·.name) := by simp
  unfold addColumn
  split
  next taken =>
    have taken := named.mp taken
    constructor
    · rintro ⟨⟩
      exact .duplicate taken
    · rintro (_ | ⟨untaken, -, -, -⟩ | ⟨untaken, -, -, -⟩)
      · rfl
      · exact absurd taken untaken
      · exact absurd taken untaken
  next untaken =>
    have untaken := mt named.mpr untaken
    have checked : c.Refuses spec refusal ↔ Column.ofSpec spec names = .error refusal := by
      rw [Column.ofSpec_error_iff]
      constructor
      · rintro (taken | ⟨-, unread, unwritten, unasked⟩ | ⟨-, read, key, condition⟩)
        · exact absurd taken untaken
        · exact .inl ⟨rfl, unread, unwritten, unasked⟩
        · exact .inr ⟨rfl, read, key, condition⟩
      · rintro (⟨rfl, unread, unwritten, unasked⟩ | ⟨rfl, read, key, condition⟩)
        · exact .idle untaken unread unwritten unasked
        · exact .generatedKey untaken read key condition
    rw [checked]
    cases Column.ofSpec spec names <;> simp [bind, Except.bind, pure, Except.pure]

/-- A column that is not refused enters the command behind the others, as it was described. -/
theorem addColumn_adds (added : c.addColumn spec names = .ok (c', names')) :
    ∃ column : Column, c' = { c with columns := c.columns ++ [column] } ∧ column.IsOf spec ∧
      column.Proper ∧ spec.name ∉ c.columns.map (·.name) := by
  unfold addColumn at added
  split at added
  · cases added
  next untaken =>
    cases made : Column.ofSpec spec names with
    | error refusal =>
      rw [made] at added
      cases added
    | ok taken =>
      rw [made] at added
      cases added
      obtain ⟨same, proper⟩ := Column.ofSpec_isOf made
      exact ⟨taken.1, rfl, same, proper, by simpa using untaken⟩

/-- A command as it can be built: begun without columns and given them one by one, each named from
whatever supply is at hand. -/
inductive Built : Command → Prop
  | blank (table : String) (schema : Option String) (kind : ChangeKind) (entry : Nat) :
    Built (Command.blank table schema kind entry)
  | added {c c' : Command} {spec : ColumnSpec} {names names' : NameSupply} (earlier : Built c)
      (column : c.addColumn spec names = .ok (c', names')) : Built c'

theorem Built.proper (built : c.Built) : ∀ column ∈ c.columns, column.Proper := by
  induction built with
  | blank => simp [Command.blank]
  | added _ added ih =>
    obtain ⟨column, rfl, -, proper, -⟩ := addColumn_adds added
    exact List.forall_mem_append.mpr ⟨ih, List.forall_mem_singleton.mpr proper⟩

/-- The columns of a command have different names. -/
theorem Built.distinct (built : c.Built) : (c.columns.map (·.name)).Nodup := by
  induction built with
  | blank => exact .nil
  | @added _ _ spec _ _ _ added ih =>
    obtain ⟨column, rfl, same, -, new⟩ := addColumn_adds added
    have name : column.name = spec.name := congrArg (·.name) same
    rw [List.map_append, List.map_singleton, name]
    exact ih.append (List.nodup_singleton _) (List.disjoint_singleton.mpr new)

end Command

end BatchedSave
