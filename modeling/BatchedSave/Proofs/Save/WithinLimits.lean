import Mathlib
import BatchedSave.Proofs.Batch.Parameters
import BatchedSave.Proofs.Save.Caps
import BatchedSave.Proofs.Save.Postings

/-!
# Limits are kept

The limits decide on a batch while it is filled; what counts is that no round trip exceeds them. A
save closes batches that its limits accepted, and it splits some of them into batches of one command
that are filled under other limits. `run_within_limits` says that caps are kept on all of these
ways.
-/
namespace BatchedSave.Save

variable {s : Save} {maxCommands maxParameters : Nat} {manner : Manner} {trace : List Exchange}
variable {commands : List Command} {result : Except (Abort Error) SaveOutcome}

/-- Every round trip of a save under caps carries commands within the caps. -/
theorem run_posts_fit (capped : s.limits = .caps maxCommands maxParameters)
    (run : (s.run manner commands).Runs trace result) :
    ∃ posts, Posts s manner posts trace ∧
      ∀ x ∈ posts, Fits maxCommands maxParameters x.group := by
  obtain ⟨p, policy⟩ : ∃ p, .caps maxCommands maxParameters = Limits.policy p := ⟨_, rfl⟩
  obtain ⟨posts, made, within, -, -⟩ := (run_course run).makes (capped.trans policy)
  refine ⟨posts, made, fun x member => ?_⟩
  exact Policy.groups_fit policy s.minBatchSize commands _
    (within.subset (List.mem_map_of_mem member))

/-- Every statement of a save under caps binds parameters within the caps. -/
theorem run_queries_fit (capped : s.limits = .caps maxCommands maxParameters)
    (run : (s.run manner commands).Runs trace result) :
    ∀ command ∈ queries (conversation trace), command.parameters.length ≤ maxParameters := by
  obtain ⟨p, policy⟩ : ∃ p, .caps maxCommands maxParameters = Limits.policy p := ⟨_, rfl⟩
  have sends : Sends s {} (conversation trace) trace (p.groups s.minBatchSize commands) result :=
    (run_course run).sends (capped.trans policy)
  obtain ⟨sendings, speaks, within, -⟩ := sends
  rw [speaks.queries_eq]
  intro command member
  obtain ⟨x, sent, rfl⟩ := List.mem_map.mp member
  have fits := Policy.groups_fit policy s.minBatchSize commands x.group
    (within.subset (List.mem_map_of_mem sent))
  simpa [Sending.command, List.length_flatMap, Command.length_parameters] using
    (fits_iff.mp fits).2

/-- Under limits that answer by what they see, and whatever is called on a batch, its count is that
of the accepted commands, these are valid, and the limits accept the batch once it has a command. A
save under caps therefore keeps them in every round trip, of a whole batch or of one command of a
batch that was split: in the commands it carries, in what it announces, and in the parameters that
the store receives. -/
theorem run_within_limits :
    (∀ {placeholder : String → String} {p : Policy} {options : BatchOptions}
      {calls : List Batch.Call} {trace : List Exchange} {b : Batch},
      Batch.History (.fresh placeholder (.policy p) options) calls trace b →
        b.commands = Batch.accepted calls ∧
        b.parameterCount = ((Batch.accepted calls).map (·.parameterCount)).sum ∧
        (∀ c ∈ Batch.accepted calls, c.validate = .ok ()) ∧
        (Batch.accepted calls ≠ [] → p.accepts b.view = .ok true)) ∧
    ∀ {s : Save} {maxCommands maxParameters : Nat} {manner : Manner} {commands : List Command}
      {trace : List Exchange} {result : Except (Abort Error) SaveOutcome},
      s.limits = .caps maxCommands maxParameters → (s.run manner commands).Runs trace result →
        (∃ posts, Posts s manner posts trace ∧ ∀ x ∈ posts, x.group.length ≤ maxCommands ∧
          (x.group.flatMap (·.bindings s.placeholder)).length ≤ maxParameters) ∧
        (∀ start ∈ starts trace, start.1 ≤ maxCommands ∧ start.2 ≤ maxParameters) ∧
        ∀ command ∈ queries (conversation trace), command.parameters.length ≤ maxParameters := by
  constructor
  · intro placeholder p options calls trace b history
    have sound := history.sound (Batch.sound_fresh placeholder (.policy p) options)
    have commands := history.commands_eq rfl
    have limits : b.limits = .policy p := congrArg (·.2.1) history.setup_eq
    rw [← commands]
    exact ⟨rfl, sound.counted, sound.valid, sound.fits p limits⟩
  · intro s maxCommands maxParameters manner commands trace result capped run
    obtain ⟨posts, made, fit⟩ := run_posts_fit capped run
    refine ⟨⟨posts, made, fun x member => ?_⟩, fun start announced => ?_,
      run_queries_fit capped run⟩
    · obtain ⟨short, light⟩ := fits_iff.mp (fit x member)
      exact ⟨short, by simpa [List.length_flatMap, Command.length_bindings] using light⟩
    · obtain ⟨x, member, rfl⟩ := made.starts start announced
      exact ⟨(fit x member).commands, (fit x member).parameters⟩

/-- Caps of three commands and two parameters: of three deletes by key the third does not fit. -/
theorem run_within_limits_of_three_deletes :
    let save : Save := { limits := .caps 3 2 }
    let commands : List Command := [.keyDelete 0, .keyDelete 1, .keyDelete 2]
    let played := (save.run .blocking commands).play
      (Surroundings.scripted (Dialect.plain atPlaceholder))
      { responses := [.ok [[[.int 1]], [[.int 1]]], .ok [[[.int 1]]]] }
    (∃ (p : Policy) (calls : List Batch.Call) (trace : List Exchange) (b : Batch),
      .caps 3 2 = Limits.policy p ∧
      Batch.History (.fresh atPlaceholder (.policy p) {}) calls trace b ∧
      Batch.accepted calls = [.keyDelete 0, .keyDelete 1] ∧ calls.length = 3 ∧
      b.parameterCount = ((Batch.accepted calls).map (·.parameterCount)).sum ∧
      (∀ c ∈ Batch.accepted calls, c.validate = .ok ()) ∧ p.accepts b.view = .ok true) ∧
    (save.run .blocking commands).Runs played.journal played.result ∧
    starts played.journal = [(2, 2), (1, 1)] ∧
    (∃ posts, Posts save .blocking posts played.journal ∧ ∀ x ∈ posts, x.group.length ≤ 3 ∧
      (x.group.flatMap (·.bindings save.placeholder)).length ≤ 2) ∧
    (∀ start ∈ starts played.journal, start.1 ≤ 3 ∧ start.2 ≤ 2) ∧
    ∀ command ∈ queries (conversation played.journal), command.parameters.length ≤ 2 := by
  intro save commands played
  obtain ⟨batches, saves⟩ := run_within_limits
  have run : (save.run .blocking commands).Runs played.journal played.result :=
    Program.runs_play _ _ _
  obtain ⟨posts, announced, bound⟩ := saves rfl run
  refine ⟨?_, run, by cbv, posts, announced, bound⟩
  let first : Batch := .fresh atPlaceholder (.caps 3 2) {}
  let begun : Batch := { first with script := { text := "-- batch" } }
  let one := begun.push (.keyDelete 0)
  let two := one.push (.keyDelete 1)
  have opened : (first.tryAdd (.keyDelete 0)).Runs [⟨.header, "-- batch"⟩] (one, .ok .added) :=
    .exchange ⟨.header, _⟩ (.done _)
  have joined : (one.tryAdd (.keyDelete 1)).Runs [] (two, .ok .added) := .done _
  have full : (two.tryAdd (.keyDelete 2)).Runs two.reportFull (two, .ok (.full (.keyDelete 2))) :=
    .exchange ⟨.log _, ()⟩ (.exchange ⟨.record _, ()⟩ (.done _))
  have history : Batch.History first _ _ two :=
    ((Batch.History.start.call (.tried opened)).call (.tried joined)).call (.tried full)
  obtain ⟨-, counted, valid, accepted⟩ := batches history
  exact ⟨_, _, _, two, rfl, history, rfl, rfl, counted, valid, accepted (List.cons_ne_nil _ _)⟩

end BatchedSave.Save
