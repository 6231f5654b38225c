import Mathlib.Logic.Function.Basic
import BatchedSave.Proofs.Command.Columns

/-!
# Commands drafted side by side

Columns are added to any number of commands in any order, and all of them are named from one supply,
from which nothing else takes a name. Commands and supply are changed in place, so a call that fails
could leave something behind in either of them: `append` is `addColumn` as such a call, check by
check and name by name, and `append_eq` says that it leaves what `addColumn` returns, or everything
as it was. The names are handed out without a gap: read in the order in which the columns were
added, they are `p0`, `p1`, … up to the next one of the supply (`names_without_gap`).
-/
namespace BatchedSave

/-! ### A column added in place -/

/-- Takes the next name from the supply at hand if one is wanted. -/
def NameSupply.draw (wanted : Bool) : StateM NameSupply (Option String) :=
  modifyGet (·.takeIf wanted)

/-- Checks a column's flags and draws the names of its parameters from the supply at hand. -/
def Column.draw (spec : ColumnSpec) : ExceptT Refusal (StateM NameSupply) Column :=
  if !spec.flags.read && !spec.flags.write && !spec.flags.condition then
    throw (.idleColumn spec.name)
  else if spec.flags.read && spec.flags.key && spec.flags.condition then
    throw (.generatedKeyCondition spec.name)
  else do
    let current ← NameSupply.draw spec.flags.bindsCurrent
    let former ← NameSupply.draw spec.flags.bindsFormer
    return { name := spec.name, mapping := spec.mapping, flags := spec.flags, value := spec.value
             former := spec.former, nullable := spec.nullable
             currentParameter := current, formerParameter := former }

/-- Appends a column to a command; both command and supply come back, however the call ends. What
`draw` has taken from the supply by the time it fails is gone. -/
def Command.append (c : Command) (spec : ColumnSpec) (names : NameSupply) :
    Except Refusal Unit × Command × NameSupply :=
  if c.columns.any (·.name == spec.name) then
    (.error (.duplicateColumn spec.name c.table), c, names)
  else
    match (Column.draw spec).run.run names with
    | (.error refusal, names) => (.error refusal, c, names)
    | (.ok column, names) => (.ok (), { c with columns := c.columns ++ [column] }, names)

theorem Column.draw_run (spec : ColumnSpec) (names : NameSupply) :
    (Column.draw spec).run.run names =
      match Column.ofSpec spec names with
      | .error refusal => (.error refusal, names)
      | .ok (column, names) => (.ok column, names) := by
  unfold Column.draw Column.ofSpec
  by_cases idle : (!spec.flags.read && !spec.flags.write && !spec.flags.condition) = true
  · simp only [idle, if_true]
    rfl
  · by_cases generated : (spec.flags.read && spec.flags.key && spec.flags.condition) = true
    · simp only [idle, generated, if_true]
      rfl
    · simp only [idle, generated]
      rfl

/-- A column that is refused leaves command and supply as they were. -/
theorem Command.append_eq (c : Command) (spec : ColumnSpec) (names : NameSupply) :
    c.append spec names =
      match c.addColumn spec names with
      | .error refusal => (.error refusal, c, names)
      | .ok (c, names) => (.ok (), c, names) := by
  unfold append addColumn
  split
  · rfl
  · rw [Column.draw_run]
    cases Column.ofSpec spec names <;> rfl

/-! ### Many commands, one supply -/

/-- The names that were handed out before and those that come next are numbered without a gap. -/
theorem NameSupply.given_append (names : NameSupply) (count : Nat) :
    fresh.upcoming names.next ++ names.upcoming count =
      fresh.upcoming (names.skip count).next := by
  have joined : List.range' 0 names.next ++ List.range' names.next count =
      List.range' 0 (names.next + count) := by
    simpa using List.range'_append_1 (s := 0) (m := names.next) (n := count)
  simp only [upcoming, fresh, skip, ← List.map_append, joined]

/-- A column that is to be added to a command. -/
structure Addition where
  draft : Nat
  spec : ColumnSpec

/-- Commands, each under a number of its own, and the supply that names their columns. `added` lists
the columns that were added, in the order of the calls, with the numbers of their commands. -/
structure Drafting where
  drafts : Nat → Command
  names : NameSupply
  added : List (Nat × Column)

namespace Drafting

/-- The commands before any of them has a column. -/
def start (commands : Nat → Command) : Drafting where
  drafts i := { commands i with columns := [] }
  names := .fresh
  added := []

/-- One call, whether it succeeds or not. What its command has more than before was added. -/
def add (d : Drafting) (a : Addition) : Drafting :=
  let (_, c, names) := (d.drafts a.draft).append a.spec d.names
  { drafts := Function.update d.drafts a.draft c
    names
    added := d.added ++ (c.columns.drop (d.drafts a.draft).columns.length).map (a.draft, ·) }

def run (d : Drafting) (calls : List Addition) : Drafting :=
  calls.foldl add d

/-- What a call can come to. It is refused and changes nothing, or the column enters its command
behind the others and takes as many names as it binds parameters, the next ones of the supply. -/
inductive Step (d : Drafting) (a : Addition) : Drafting → Prop
  | refused {refusal : Refusal} (refuses : (d.drafts a.draft).Refuses a.spec refusal)
      (outcome : (d.drafts a.draft).addColumn a.spec d.names = .error refusal) : Step d a d
  | added {c' : Command} {names' : NameSupply} {column : Column}
      (welcome : ∀ refusal, ¬ (d.drafts a.draft).Refuses a.spec refusal)
      (outcome : (d.drafts a.draft).addColumn a.spec d.names = .ok (c', names'))
      (last : c' = { d.drafts a.draft with columns := (d.drafts a.draft).columns ++ [column] })
      (same : column.IsOf a.spec) (named : column.names = d.names.upcoming column.names.length)
      (taken : names' = d.names.skip column.names.length) :
    Step d a
      { drafts := Function.update d.drafts a.draft c', names := names'
        added := d.added ++ [(a.draft, column)] }

theorem add_steps (d : Drafting) (a : Addition) : d.Step a (d.add a) := by
  unfold add
  rw [Command.append_eq]
  cases outcome : (d.drafts a.draft).addColumn a.spec d.names with
  | error refusal =>
    simpa using Step.refused (Command.addColumn_error_iff.mp outcome) outcome
  | ok grown =>
    obtain ⟨c', names'⟩ := grown
    have welcome (refusal : Refusal) : ¬ (d.drafts a.draft).Refuses a.spec refusal := by
      intro refuses
      rw [Command.addColumn_error_iff.mpr refuses] at outcome
      cases outcome
    obtain ⟨count, named, taken⟩ := Command.addColumn_names outcome
    obtain ⟨column, last, same, -, -⟩ := Command.addColumn_adds outcome
    have named : column.names = d.names.upcoming count := by
      simpa [Command.names, last] using named
    obtain rfl : column.names.length = count := by simp [named, NameSupply.upcoming]
    have entered : c'.columns.drop (d.drafts a.draft).columns.length = [column] := by simp [last]
    simpa [entered] using Step.added welcome outcome last same named taken

/-- What holds between the calls: the names of the added columns are all that were handed out, in
order; each command has the columns that were added to it, in order; and it could have been built
without the others. -/
structure Orderly (d : Drafting) : Prop where
  numbered : d.added.flatMap (·.2.names) = NameSupply.fresh.upcoming d.names.next
  placed : ∀ i, (d.drafts i).columns = (d.added.filter (·.1 = i)).map (·.2)
  built : ∀ i, (d.drafts i).Built

theorem orderly_start (commands : Nat → Command) : (start commands).Orderly where
  numbered := rfl
  placed _ := rfl
  built i := .blank (commands i).table (commands i).schema (commands i).kind (commands i).entry

variable {d d' : Drafting} {a : Addition}

theorem Step.orderly (step : d.Step a d') (orderly : d.Orderly) : d'.Orderly := by
  cases step with
  | refused => exact orderly
  | @added c' names' column _ outcome last _ named taken =>
    refine ⟨?_, fun i => ?_, fun i => ?_⟩
    · rw [taken, ← NameSupply.given_append, ← named, ← orderly.numbered, List.flatMap_append,
        List.flatMap_singleton]
    · by_cases here : a.draft = i
      · subst here
        simp [last, orderly.placed]
      · simp [here, orderly.placed, Function.update_of_ne (Ne.symm here)]
    · by_cases here : a.draft = i
      · subst here
        simpa using (orderly.built a.draft).added outcome
      · simpa [Function.update_of_ne (Ne.symm here)] using orderly.built i

theorem run_orderly (orderly : d.Orderly) (calls : List Addition) : (d.run calls).Orderly := by
  induction calls generalizing d with
  | nil => exact orderly
  | cons a calls ih => exact ih ((add_steps d a).orderly orderly)

/-- Whatever columns are added to whatever commands in whatever order, the parameters of those that
were not refused are `p0`, `p1`, … without a gap. Each command has its columns in the order of the
calls, no two of one name, and a column has a parameter for either value just if it needs it. Any
further call is refused and changes nothing, or it adds its column and takes the names that come
next. -/
theorem names_without_gap (commands : Nat → Command) (calls : List Addition) :
    let d := (start commands).run calls
    d.added.flatMap (·.2.names) = (List.range d.names.next).map (fun n => "p" ++ toString n) ∧
      (d.added.flatMap (·.2.names)).Nodup ∧
      (∀ i, (d.drafts i).columns = (d.added.filter (·.1 = i)).map (·.2) ∧
        ((d.drafts i).columns.map (·.name)).Nodup ∧
        ∀ column ∈ (d.drafts i).columns, column.Proper) ∧
      ∀ a, d.Step a (d.add a) := by
  intro d
  obtain ⟨numbered, placed, built⟩ : d.Orderly := run_orderly (orderly_start commands) calls
  have counted : d.added.flatMap (·.2.names) =
      (List.range d.names.next).map NameSupply.name := by
    rw [numbered, NameSupply.upcoming, NameSupply.fresh, List.range_eq_range']
  refine ⟨counted, ?_, fun i => ⟨placed i, (built i).distinct, (built i).proper⟩, d.add_steps⟩
  rw [counted]
  exact List.nodup_range.map NameSupply.name_injective

example :
    let key : ColumnSpec := { name := "id", mapping := ⟨"bigint", .int64⟩, flags := .keyCondition }
    let token : ColumnSpec :=
      { name := "version", mapping := ⟨"int", .int32⟩, flags := Flags.guardToken.withWrite }
    ((start fun i => Command.blank "users" none .update i).run
        [⟨0, key⟩, ⟨1, key⟩, ⟨0, key⟩, ⟨0, token⟩]).added.map (fun a => (a.1, a.2.names)) =
      [(0, ["p0"]), (1, ["p1"]), (0, ["p2", "p3"])] := by
  decide

end Drafting

end BatchedSave
