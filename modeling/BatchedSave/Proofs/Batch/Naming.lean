import Mathlib.Data.List.Flatten
import Mathlib.Data.List.Nodup
import BatchedSave.Command

/-!
# Parameter names

The columns of any number of commands are named from one supply. A column takes as many names as it
binds parameters, each of them for the first time, and a column that is refused takes none. Hence
all names of commands that were drafted with one supply are different, in whichever order their
columns were added.
-/
namespace BatchedSave

/-! ### The supply -/

namespace NameSupply

theorem name_injective : Function.Injective name := by
  intro m n same
  have digits : Nat.toDigits 10 m = Nat.toDigits 10 n := by
    have letters := congrArg String.toList same
    simpa [name, Nat.repr_eq_ofList_toDigits] using letters
  have read := congrArg (Nat.ofDigitChars 10 · 0) digits
  simpa [Nat.ofDigitChars_ten_toDigits] using read

/-- The next `count` names of a supply. -/
def upcoming (names : NameSupply) (count : Nat) : List String :=
  (List.range' names.next count).map name

/-- The supply behind its next `count` names. -/
def skip (names : NameSupply) (count : Nat) : NameSupply :=
  ⟨names.next + count⟩

/-- Different names that a supply has handed out. -/
structure HandedOut (names : NameSupply) (given : List String) : Prop where
  nodup : given.Nodup
  earlier : ∀ x ∈ given, ∃ n < names.next, x = name n

namespace HandedOut

variable {names : NameSupply} {given given' : List String}

theorem nil (names : NameSupply) : names.HandedOut [] :=
  ⟨.nil, by simp⟩

theorem perm (handed : names.HandedOut given) (same : given'.Perm given) :
    names.HandedOut given' where
  nodup := same.nodup_iff.mpr handed.nodup
  earlier x member := handed.earlier x (same.mem_iff.mp member)

/-- The names that come next differ from all earlier ones. -/
theorem append (handed : names.HandedOut given) (count : Nat) :
    (names.skip count).HandedOut (given ++ names.upcoming count) where
  nodup := by
    have fresh : (names.upcoming count).Nodup := (List.nodup_range' 1).map name_injective
    refine List.nodup_append'.mpr ⟨handed.nodup, fresh, fun x old new => ?_⟩
    obtain ⟨m, before, rfl⟩ := handed.earlier x old
    obtain ⟨n, range, same⟩ := List.mem_map.mp new
    obtain rfl := name_injective same
    have behind := (List.mem_range'_1.mp range).1
    omega
  earlier x member := by
    rcases List.mem_append.mp member with old | new
    · obtain ⟨n, before, rfl⟩ := handed.earlier x old
      exact ⟨n, Nat.lt_add_right count before, rfl⟩
    · obtain ⟨n, range, rfl⟩ := List.mem_map.mp new
      exact ⟨n, (List.mem_range'_1.mp range).2, rfl⟩

theorem skip (handed : names.HandedOut given) (count : Nat) :
    (names.skip count).HandedOut given where
  nodup := handed.nodup
  earlier x member := by
    obtain ⟨n, before, rfl⟩ := handed.earlier x member
    exact ⟨n, Nat.lt_add_right count before, rfl⟩

end HandedOut

end NameSupply

/-! ### Columns and commands -/

/-- The names of a column's parameters, the current value's first. -/
def Column.names (column : Column) : List String :=
  column.currentParameter.toList ++ column.formerParameter.toList

theorem Column.parameterCount_eq (column : Column) :
    column.parameterCount = column.names.length := by
  simp [Column.parameterCount, Column.names]

/-- A column that is added takes the next names, one for each parameter it binds. -/
theorem Column.ofSpec_names {spec : ColumnSpec} {names names' : NameSupply} {column : Column}
    (added : Column.ofSpec spec names = .ok (column, names')) :
    ∃ count, column.names = names.upcoming count ∧ names' = names.skip count := by
  simp only [Column.ofSpec] at added
  split at added
  · cases added
  split at added
  · cases added
  cases added
  refine ⟨spec.flags.bindsCurrent.toNat + spec.flags.bindsFormer.toNat, ?_⟩
  cases spec.flags.bindsCurrent <;> cases spec.flags.bindsFormer <;>
    simp [Column.names, NameSupply.takeIf, NameSupply.take, NameSupply.upcoming, NameSupply.skip,
      List.range']

namespace Command

/-- The names of a command's parameters, in order of columns. -/
def names (c : Command) : List String :=
  c.columns.flatMap (·.names)

theorem parameterCount_eq_length_names (c : Command) : c.parameterCount = c.names.length := by
  unfold parameterCount names
  induction c.columns with
  | nil => rfl
  | cons column columns ih =>
    rw [List.map_cons, List.foldr_cons, ih, List.flatMap_cons, List.length_append,
      Column.parameterCount_eq]

/-- A column is added behind the others. -/
theorem addColumn_names {c c' : Command} {spec : ColumnSpec} {names names' : NameSupply}
    (added : c.addColumn spec names = .ok (c', names')) :
    ∃ count, c'.names = c.names ++ names.upcoming count ∧ names' = names.skip count := by
  unfold addColumn at added
  split at added
  · cases added
  cases accepted : Column.ofSpec spec names with
  | error refusal =>
    rw [accepted] at added
    cases added
  | ok taken =>
    rw [accepted] at added
    cases added
    obtain ⟨count, given, behind⟩ := Column.ofSpec_names accepted
    exact ⟨count, by simp [Command.names, given], behind⟩

end Command

/-- Commands drafted with one supply: a command is begun without columns, a column is added to one
of the commands, or names are taken for something else. A column that is refused leaves its command
and the supply as they were. -/
inductive Drafted : List Command → NameSupply → Prop
  | start (names : NameSupply) : Drafted [] names
  | begun {drafts : List Command} {names : NameSupply} (table : String) (schema : Option String)
      (kind : ChangeKind) (entry : Nat) (earlier : Drafted drafts names) :
    Drafted (drafts ++ [Command.blank table schema kind entry]) names
  | added {before after : List Command} {c c' : Command} {names names' : NameSupply}
      {spec : ColumnSpec} (earlier : Drafted (before ++ c :: after) names)
      (column : c.addColumn spec names = .ok (c', names')) :
    Drafted (before ++ c' :: after) names'
  | skipped {drafts : List Command} {names : NameSupply} (count : Nat)
      (earlier : Drafted drafts names) : Drafted drafts (names.skip count)

/-- All names of commands that were drafted with one supply are different. -/
theorem Drafted.names_handedOut {drafts : List Command} {names : NameSupply}
    (drafted : Drafted drafts names) : names.HandedOut (drafts.flatMap (·.names)) := by
  induction drafted with
  | start names => exact .nil names
  | begun table schema kind entry _ ih =>
    have blank : (Command.blank table schema kind entry).names = [] := rfl
    simpa [blank] using ih
  | @added before after c c' names names' spec _ column ih =>
    obtain ⟨count, given, rfl⟩ := Command.addColumn_names column
    refine (ih.append count).perm ?_
    simp only [List.flatMap_append, List.flatMap_cons, given, List.append_assoc]
    exact (List.perm_append_comm.append_left _).append_left _
  | skipped count _ ih => exact ih.skip count

/-- So are those of any of the commands, none of them taken twice. -/
theorem Drafted.names_nodup {drafts chosen : List Command} {names : NameSupply}
    (drafted : Drafted drafts names) (among : chosen.Subperm drafts) :
    (chosen.flatMap (·.names)).Nodup := by
  obtain ⟨arranged, same, sublist⟩ := among
  have fewer := sublist.flatMap (·.names)
  exact (same.flatMap_right _).nodup_iff.mp (drafted.names_handedOut.nodup.sublist fewer)

end BatchedSave
