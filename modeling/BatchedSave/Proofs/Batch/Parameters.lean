import BatchedSave.Proofs.Batch.Naming
import BatchedSave.Proofs.Batch.Soundness
import BatchedSave.Proofs.RoundTrip.Announcement

/-!
# The parameters of a batch

The limits of a batch count its parameters while commands are added; the parameters themselves are
only listed when the batch is sent. `parameters_sent` says that these are the same ones: the store
receives what the columns of the accepted commands bind, in order, as many as were counted and
announced, and under different names.
-/
namespace BatchedSave

theorem atPlaceholder_injective : Function.Injective atPlaceholder := by
  intro x y same
  simpa [atPlaceholder] using same

/-- What the store receives for a column: its current value, then its former value, each under the
placeholder of its name if it has one. -/
def Column.bindings (placeholder : String → String) (column : Column) : List StoreParameter :=
  let bound (value : Value) (name : String) : StoreParameter :=
    ⟨placeholder name, value, column.mapping.dbType, .input, column.nullable⟩
  (column.currentParameter.map (bound column.value)).toList ++
    (column.formerParameter.map (bound column.former)).toList

namespace Command

variable (placeholder : String → String) (c : Command)

/-- What the store receives for a command, in declared order of its columns. -/
def bindings : List StoreParameter :=
  c.columns.flatMap (·.bindings placeholder)

theorem bind_parameters :
    (c.parameters placeholder).map (·.bind) = c.bindings placeholder := by
  unfold parameters bindings
  rw [List.map_flatMap]
  congr 1
  funext column
  simp only [Column.parameters, Column.bindings, List.map_append, List.map_map,
    Option.toList_map]
  rfl

/-- A parameter goes by the placeholder of its name. -/
theorem bindings_names :
    (c.bindings placeholder).map (·.name) = c.names.map placeholder := by
  unfold bindings names
  rw [List.map_flatMap, List.map_flatMap]
  congr 1
  funext column
  cases current : column.currentParameter <;> cases former : column.formerParameter <;>
    simp [Column.bindings, Column.names, current, former]

theorem length_bindings : (c.bindings placeholder).length = c.parameterCount := by
  have names := congrArg List.length (c.bindings_names placeholder)
  simpa [c.parameterCount_eq_length_names] using names

theorem length_parameters : (c.parameters placeholder).length = c.parameterCount := by
  rw [← c.length_bindings placeholder, ← c.bind_parameters placeholder, List.length_map]

end Command

namespace Batch

/-- The parameters that are bound for a statement of a batch are those of its commands. -/
theorem bind_statementOf (b : Batch) (text : String) (settings : Settings) :
    ((b.statementOf text).bind settings).parameters =
      b.commands.flatMap (·.bindings b.placeholder) := by
  have bound : ((b.statementOf text).bind settings).parameters =
      (b.commands.flatMap (·.parameters b.placeholder)).map (·.bind) := rfl
  simp only [bound, List.map_flatMap, Command.bind_parameters]

theorem Sound.length_bindings {b : Batch} (sound : b.Sound) :
    (b.commands.flatMap (·.bindings b.placeholder)).length = b.parameterCount := by
  simp only [List.length_flatMap, Command.length_bindings, sound.counted]

/-- Whatever was called on a batch, the parameters of its statement are what the columns of the
accepted commands bind: for each command in order and each of its columns in declared order, the
current value and then the former value, each if it has a name, with the column's type. There are as
many as the batch has counted, and a round trip announces that many, unless it has no command or no
text. If the accepted commands are among those drafted with one supply of names, and a dialect tells
names apart, as the default does, the store can tell the parameters apart. -/
theorem parameters_sent {placeholder : String → String} {limits : Limits} {options : BatchOptions}
    {calls : List Call} {trace writing : List Exchange} {b after : Batch} {statement : Statement}
    (history : History (fresh placeholder limits options) calls trace b)
    (written : b.statement.Runs writing (after, .ok statement)) (settings : Settings) :
    let sent := (statement.bind settings).parameters
    sent = (accepted calls).flatMap (fun c => c.columns.flatMap (·.bindings placeholder)) ∧
    sent.length = b.parameterCount ∧
    (∀ {manner : Manner} {trip : List Exchange} {result : Except (Abort Error) Executed},
      (b.execute manner).Runs trip result →
        (starts trip = [] ∧
          (accepted calls = [] ∨ ∃ after e, b.statement.Runs trip (after, .error e))) ∨
        starts trip = [((accepted calls).length, sent.length)]) ∧
    ∀ {drafts : List Command} {names : NameSupply}, Drafted drafts names →
      (accepted calls).Subperm drafts →
      placeholder = atPlaceholder ∨ Function.Injective placeholder →
        (sent.map (·.name)).Nodup := by
  intro sent
  have sound := history.sound (sound_fresh placeholder limits options)
  have commands : b.commands = accepted calls := history.commands_eq rfl
  have same : b.placeholder = placeholder := congrArg (·.1) history.setup_eq
  obtain ⟨-, -, made⟩ := statement_keeps written
  obtain ⟨text, rfl⟩ := made _ rfl
  have parameters : sent = b.commands.flatMap (·.bindings b.placeholder) :=
    bind_statementOf b text settings
  have counted : sent.length = b.parameterCount := parameters ▸ sound.length_bindings
  refine ⟨by rw [parameters, commands, same]; rfl, counted, fun run => ?_, ?_⟩
  · rw [counted, ← commands]
    rcases execute_starts run with silent | ⟨-, announced⟩
    · exact .inl silent
    · exact .inr announced
  · intro drafts names drafted among dialect
    have injective : Function.Injective placeholder := by
      rcases dialect with rfl | injective
      · exact atPlaceholder_injective
      · exact injective
    have named : sent.map (·.name) = ((accepted calls).flatMap (·.names)).map placeholder := by
      simp only [parameters, commands, same, List.map_flatMap, Command.bindings_names]
    rw [named]
    exact (drafted.names_nodup among).map injective

/-- An update guarded by its version and a delete bind three parameters. -/
theorem parameters_sent_of_two :
    ∃ (calls : List Call) (trace writing : List Exchange) (b after : Batch) (statement : Statement)
      (drafts : List Command) (names : NameSupply),
      History (fresh atPlaceholder (.caps 2 3) {}) calls trace b ∧
      b.statement.Runs writing (after, .ok statement) ∧
      Drafted drafts names ∧ (accepted calls).Subperm drafts ∧
      (accepted calls).length = 2 ∧
      let sent := (statement.bind {}).parameters
      sent = [⟨"@p0", .int 2, .int64, .input, true⟩, ⟨"@p1", .int 1, .int64, .input, true⟩,
        ⟨"@p2", .int 7, .int64, .input, false⟩] ∧
      sent = (accepted calls).flatMap (fun c => c.columns.flatMap (·.bindings atPlaceholder)) ∧
      sent.length = b.parameterCount ∧ (sent.map (·.name)).Nodup := by
  let int : TypeMapping := ⟨"INTEGER", .int64⟩
  let version : ColumnSpec := ⟨"version", int, Flags.guardToken.withWrite, .int 2, .int 1, true⟩
  let key : ColumnSpec := ⟨"id", int, .keyCondition, .int 7, .null, false⟩
  let update : Command := { Command.blank "users" none .update 0 with
    columns := [⟨"version", int, version.flags, .int 2, .int 1, true, some "p0", some "p1"⟩] }
  let delete : Command := { Command.blank "posts" none .delete 1 with
    columns := [⟨"id", int, key.flags, .int 7, .null, false, some "p2", none⟩] }
  have guarded : (Command.blank "users" none .update 0).addColumn version .fresh =
      .ok (update, ⟨2⟩) := by decide
  have found : (Command.blank "posts" none .delete 1).addColumn key ⟨2⟩ = .ok (delete, ⟨3⟩) := by
    decide
  have earlier : Drafted ([] ++ update :: []) ⟨2⟩ :=
    .added (.begun "users" none .update 0 (.start .fresh)) guarded
  have drafted : Drafted ([update] ++ delete :: []) ⟨3⟩ :=
    .added (.begun "posts" none .delete 1 earlier) found
  let first : Batch := fresh atPlaceholder (.caps 2 3) {}
  let begun : Batch := { first with script := { text := "-- batch" } }
  have added : (first.tryAdd update).Runs [⟨.header, "-- batch"⟩] (begun.push update, .ok .added) :=
    .exchange ⟨.header, _⟩ (.done _)
  have joined : ((begun.push update).tryAdd delete).Runs []
      ((begun.push update).push delete, .ok .added) := .done _
  have history := (History.start.call (.tried added)).call (.tried joined)
  let writing : List Exchange :=
    [⟨.fragment update, Rendering.mk "UPDATE" none⟩,
      ⟨.fragment delete, Rendering.mk "DELETE" none⟩, ⟨.footer, ";"⟩]
  obtain ⟨after, statement, written⟩ : ∃ after statement,
      ((begun.push update).push delete).statement.Runs writing (after, .ok statement) :=
    ⟨_, _, .exchange ⟨.fragment _, _⟩ (.exchange ⟨.fragment _, _⟩
      (.exchange ⟨.footer, _⟩ (.done _)))⟩
  obtain ⟨listed, counted, -, distinct⟩ := parameters_sent history written {}
  have among : (accepted ([] ++ [Call.tried update (.ok .added)] ++
      [Call.tried delete (.ok .added)])).Subperm [update, delete] :=
    ⟨[update, delete], .refl _, .refl _⟩
  refine ⟨_, _, _, _, after, statement, _, _, history, written, drafted, among, rfl, ?_, listed,
    counted, distinct drafted among (.inl rfl)⟩
  rw [listed]
  decide

end Batch

end BatchedSave
