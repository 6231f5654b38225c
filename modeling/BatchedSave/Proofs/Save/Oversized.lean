import BatchedSave.Saver
import BatchedSave.Proofs.Program.Events
import BatchedSave.Proofs.RoundTrip.Classification
import BatchedSave.Proofs.Save.Caps
import BatchedSave.Proofs.Save.Drawing

/-!
# A command that can never fit

Where the dialect writes every text and every round trip succeeds, only a command that exceeds the
caps on its own ends a save. Whether it meets an empty batch or closes one with commands, all those
before it are sent and it is the last that is drawn; `Fared` lists the two ways such a save can end.
The main statement, `save_stops_at_oversized`, says so of a saver with a valid configuration.
-/
namespace BatchedSave

/-- The rows that metrics are told of at the ends of round trips. -/
def rowsReported (trace : List Exchange) : Nat :=
  ((events trace).filterMap (·.finished?)).sum

/-- Every round trip of the trace whose text was written has succeeded. -/
def TripsSucceed (manner : Manner) (trace : List Exchange) : Prop :=
  ∀ (b : Batch) (part : List Exchange) (result : Except (Abort Error) Executed), part <:+: trace →
    b.commands ≠ [] → (b.execute manner).Runs part result → (∀ x ∈ part, ¬ x.FailsToWrite) →
      ∃ executed, result = .ok executed

/-- Nothing goes wrong with the dialect or with the store, and the rows stay in range when so many
have been counted already. -/
structure Undisturbed (manner : Manner) (rows : Nat) (trace : List Exchange) : Prop where
  written : ∀ x ∈ trace, ¬ x.FailsToWrite
  succeed : TripsSucceed manner trace
  inRange : rows + rowsReported trace < totalBound

variable {manner : Manner} {trace first second : List Exchange} {rows rows' : Nat}

theorem rowsReported_append (first second : List Exchange) :
    rowsReported (first ++ second) = rowsReported first + rowsReported second := by
  simp [rowsReported]

namespace Undisturbed

theorem before (undisturbed : Undisturbed manner rows (first ++ second)) :
    Undisturbed manner rows first where
  written x member := undisturbed.written x (List.mem_append_left second member)
  succeed b part result within :=
    undisturbed.succeed b part result (within.trans (List.prefix_append _ _).isInfix)
  inRange := by
    have whole := undisturbed.inRange
    rw [rowsReported_append] at whole
    omega

theorem behind (undisturbed : Undisturbed manner rows (first ++ second))
    (counted : rows' ≤ rows + rowsReported first) : Undisturbed manner rows' second where
  written x member := undisturbed.written x (List.mem_append_right first member)
  succeed b part result within :=
    undisturbed.succeed b part result (within.trans (List.suffix_append _ _).isInfix)
  inRange := by
    have whole := undisturbed.inRange
    rw [rowsReported_append] at whole
    omega

theorem rest (undisturbed : Undisturbed manner rows (first ++ second)) :
    Undisturbed manner rows second :=
  undisturbed.behind (Nat.le_add_right _ _)

end Undisturbed

/-! ### Round trips succeed -/

/-- A round trip that fails reports no rows, so all that report some have succeeded. -/
theorem tripsSucceed_of_rows (rows : 0 ∉ (events trace).filterMap (·.finished?)) :
    TripsSucceed manner trace := by
  intro b part result within filled run written
  cases Batch.execute_dispatches filled run with
  | unwritten failed =>
    obtain ⟨x, member, fails⟩ := Batch.statement_fails failed
    exact absurd fails (written x member)
  | sent =>
    cases result with
    | ok executed => exact ⟨executed, rfl⟩
    | error abort =>
      have told : Metrics.Event.batchFinish b.commands.length 0 () ∈ events trace :=
        List.mem_filterMap.mpr
          ⟨_, within.subset (List.mem_append_right _ (List.mem_singleton_self _)), rfl⟩
      have none : (0 : Nat) ∈ (events trace).filterMap (·.finished?) :=
        List.mem_filterMap.mpr ⟨_, told, rfl⟩
      exact absurd none rows

/-- A dialect that can write every command never fails to. -/
theorem Surroundings.scripted_writes {α : Type} {dialect : Dialect}
    (writes : ∀ c, (dialect.fragment c).failure = none) (p : Program α) (store : ScriptedStore) :
    ∀ x ∈ (p.play (scripted dialect) store).journal, ¬ x.FailsToWrite := by
  induction p generalizing store with
  | done => exact nofun
  | ask r next ih =>
    refine List.forall_mem_cons.mpr ⟨?_, ih _ _⟩
    cases r with
    | fragment c => exact fun fails => fails (writes c)
    | _ => exact id

/-- A round trip that is not disturbed adds its rows to the outcome. -/
theorem Batch.execute_undisturbed {b : Batch} {o : SaveOutcome}
    {result : Except (Abort Error) Executed} (filled : b.commands ≠ [])
    (undisturbed : Undisturbed manner o.rowsAffected trace)
    (run : (b.execute manner).Runs trace result) :
    ∃ executed o', result = .ok executed ∧ o.absorb executed = .ok o' ∧
      o'.rowsAffected ≤ o.rowsAffected + rowsReported trace := by
  obtain ⟨executed, rfl⟩ :=
    undisturbed.succeed b trace result List.infix_rfl filled run undisturbed.written
  have reported : executed.total ≤ rowsReported trace := by
    cases execute_dispatches filled run with
    | sent written trip concluded =>
      have finish : rowsReported
          [⟨.record (.batchFinish b.commands.length (rowsOf (.ok executed)) ()), ()⟩] =
            executed.total := Nat.add_zero _
      rw [rowsReported_append, finish]
      exact Nat.le_add_left _ _
  have inRange : o.rowsAffected + executed.total < totalBound :=
    Nat.lt_of_le_of_lt (Nat.add_le_add_left reported _) undisturbed.inRange
  exact ⟨executed, _, rfl, Save.absorb_ok_iff.mpr ⟨inRange, rfl⟩,
    Nat.add_le_add_left reported _⟩

namespace Save

variable {s : Save} {o : SaveOutcome} {result : Except (Abort Error) SaveOutcome}
variable {header : String} {held stream sent commands : List Command} {drawn : Bool}

theorem Delivered.succeeds {known : Option String} {groups : List (List Command)}
    (filled : ∀ group ∈ groups, group ≠ [])
    (undisturbed : Undisturbed manner o.rowsAffected trace)
    (delivered : s.Delivered manner known o groups trace result) :
    ∃ o', result = .ok o' ∧ o'.rowsAffected ≤ o.rowsAffected + rowsReported trace := by
  induction delivered with
  | done o => exact ⟨o, rfl, Nat.le_add_right _ _⟩
  | failed began run =>
    have trip := undisturbed.rest
    obtain ⟨_, _, ⟨⟩, -⟩ := Batch.execute_undisturbed (filled _ List.mem_cons_self) trip run
  | overflowed began run excess =>
    have trip := undisturbed.rest
    obtain ⟨_, _, ⟨⟩, absorbed, -⟩ :=
      Batch.execute_undisturbed (filled _ List.mem_cons_self) trip run
    rw [excess] at absorbed
    cases absorbed
  | @next o o' group groups _ opening posted rest _ _ _ began run absorbed _ ih =>
    obtain ⟨here, others⟩ := List.forall_mem_cons.mp filled
    have trip := undisturbed.before.rest
    obtain ⟨_, _, ⟨⟩, same, counted⟩ := Batch.execute_undisturbed here trip run
    rw [absorbed] at same
    cases same
    have far : o'.rowsAffected ≤ o.rowsAffected + rowsReported (opening ++ posted) := by
      rw [rowsReported_append]
      omega
    obtain ⟨o'', rfl, more⟩ := ih others (undisturbed.behind far)
    refine ⟨o'', rfl, ?_⟩
    rw [rowsReported_append]
    omega

theorem Sent.succeeds (filled : held ≠ []) (undisturbed : Undisturbed manner o.rowsAffected trace)
    (sends : s.Sent manner header held o trace result) :
    ∃ o', result = .ok o' ∧ o'.rowsAffected ≤ o.rowsAffected + rowsReported trace := by
  obtain ⟨rest, rfl, delivered⟩ := sends
  rw [← List.singleton_append] at undisturbed ⊢
  have full := parcels_ne_nil s.minBatchSize filled
  obtain ⟨o', same, counted⟩ := delivered.succeeds full undisturbed.rest
  refine ⟨o', same, ?_⟩
  rw [rowsReported_append]
  omega

/-! ### The course of an undisturbed save -/

/-- How an undisturbed save under a cap on parameters ends: it has sent all commands, none of which
exceeds the cap, or it stops at the first that does, when those before it have been sent. -/
inductive Fared (s : Save) (maxParameters : Nat) (commands : List Command)
    (trace : List Exchange) : Except (Abort Error) SaveOutcome → Prop
  | saved (o : SaveOutcome) (small : ∀ c ∈ commands, c.parameterCount ≤ maxParameters)
      (sent : s.HasSent trace commands) : Fared s maxParameters commands trace (.ok o)
  | stopped {before later : List Command} {k : Command} (split : commands = before ++ k :: later)
      (small : ∀ c ∈ before, c.parameterCount ≤ maxParameters)
      (large : maxParameters < k.parameterCount) (sent : s.HasSent trace before)
      (drawn : draws trace = before ++ [k]) :
    Fared s maxParameters commands trace (.error (.failed (oversized k)))

/-- The course of an undisturbed save. The induction is on the course; what has been sent and drawn
before it is carried along, with commands that do not exceed the cap. -/
theorem Course.fares {maxCommands maxParameters : Nat} {past : List Exchange}
    (capped : s.limits = .caps maxCommands maxParameters) (room : 0 < maxCommands)
    (valid : ∀ c ∈ commands, c.validate = .ok ())
    (resting : s.Resting commands past header sent held drawn stream)
    (small : ∀ c ∈ sent ++ held, c.parameterCount ≤ maxParameters)
    (undisturbed : Undisturbed manner o.rowsAffected trace)
    (course : s.Course manner o header held drawn stream trace result) :
    s.Fared maxParameters commands (past ++ trace) result := by
  obtain ⟨p, policy⟩ : ∃ p, .caps maxCommands maxParameters = Limits.policy p := ⟨_, rfl⟩
  -- a valid command is judged by the caps alone
  have judged {header : String} {held : List Command} {c : Command} {trace : List Exchange}
      {outcome : Except Error (Option String)} (valid : c.validate = .ok ())
      (trial : s.Trial s.limits header held c trace outcome) :
      outcome.map Option.isSome = .ok (decide (Fits maxCommands maxParameters (held ++ [c]))) := by
    rw [capped, policy] at trial
    rw [← trial.judge, Policy.judge_caps policy valid]
  -- the commands of the save are those sent, those held and those to come
  have within {past : List Exchange} {header : String} {sent held : List Command} {drawn : Bool}
      {c : Command} {later : List Command}
      (resting : s.Resting commands past header sent held drawn (c :: later)) :
      c.validate = .ok () := valid c (by simp [resting.whole])
  induction course generalizing past sent with
  | finished =>
    have whole : commands = sent := by simpa using resting.whole
    rw [List.append_nil] at small
    exact .saved _ (whole ▸ small) (whole ▸ resting.hasSent rfl)
  | @last _ _ held trace _ filled sends =>
    rw [← List.singleton_append] at undisturbed
    obtain ⟨o', rfl, -⟩ := sends.succeeds filled undisturbed.rest
    have whole : commands = sent ++ held := by simpa using resting.whole
    have quiet : queries (conversation []) = [] := rfl
    have sent := (resting.exhausted.sentOff filled sends).hasSent quiet
    simp only [List.append_assoc, List.singleton_append, List.append_nil] at sent
    exact .saved _ (whole ▸ small) (whole ▸ sent)
  | draw _ ih =>
    rw [← List.singleton_append] at undisturbed
    have fared := ih resting.pulled small undisturbed.rest
    simpa using fared
  | stopped trial => cases judged (within resting) trial
  | @oversized _ _ c later trace trial =>
    have full := Except.ok.inj (judged (within resting) trial)
    have large : maxParameters < c.parameterCount := by
      simpa [fits_singleton_iff, room] using full
    rw [List.append_nil] at small
    refine .stopped (by simpa using resting.whole) small large
      (resting.hasSent (queries_of_idle trial.idle)) ?_
    rw [draws_append, trial.inert.draws_eq_nil, resting.drawn]
    simp
  | @added _ _ header' held c later trace rest _ trial _ ih =>
    have fits : Fits maxCommands maxParameters (held ++ [c]) := by
      simpa using Except.ok.inj (judged (within resting) trial)
    have alone := fits_singleton_iff.mp (fits.within (List.suffix_append held [c]).isInfix)
    have grown : ∀ c' ∈ sent ++ (held ++ [c]), c'.parameterCount ≤ maxParameters := by
      rw [← List.append_assoc]
      exact List.forall_mem_append.mpr ⟨small, List.forall_mem_singleton.mpr alone.2⟩
    have fared := ih (resting.added trial) grown undisturbed.rest
    rwa [← List.append_assoc]
  | failing filled trial sends =>
    obtain ⟨_, ⟨⟩, -⟩ := sends.succeeds filled undisturbed.rest
  | @closed o o' header held c later trace sending rest _ filled trial sends _ ih =>
    obtain ⟨_, same, counted⟩ := sends.succeeds filled undisturbed.before.rest
    cases same
    have far : o'.rowsAffected ≤ o.rowsAffected + rowsReported (trace ++ sending) := by
      rw [rowsReported_append]
      omega
    have fared := ih ((resting.handedBack filled trial).sentOff filled sends)
      (by simpa using small) (undisturbed.behind far)
    simpa using fared

/-- A save that succeeds has only commands of its own size. -/
theorem Fared.isOk_iff {maxParameters : Nat} (fared : s.Fared maxParameters commands trace result) :
    (∃ o, result = .ok o) ↔ ∀ c ∈ commands, c.parameterCount ≤ maxParameters := by
  cases fared with
  | saved o small => exact ⟨fun _ => small, fun _ => ⟨o, rfl⟩⟩
  | @stopped before later k split small large =>
    constructor
    · rintro ⟨_, ⟨⟩⟩
    · intro all
      exact absurd (all k (by simp [split])) (by omega)

end Save

/-- A valid configuration has room for a command. -/
theorem Config.maxBatchSize_pos {c : Config} (valid : c.validate = .ok ()) :
    0 < c.batch.maxBatchSize.toNat := by
  unfold validate at valid
  split at valid
  · cases valid
  next room =>
    refine Nat.pos_of_ne_zero fun none => room ?_
    exact UInt64.toNat_inj.mp none

/-- A save of valid commands under a valid configuration, where the dialect writes every text, every
round trip succeeds and the rows stay in range, succeeds just if no command binds more parameters
than the configuration allows. Otherwise it stops at the first command that does: it fails with an
error that names the command's table, has sent the commands before it, each once and in order, and
nothing else, and has drawn no command behind it. -/
theorem Saver.save_stops_at_oversized {saver : Saver} {commands : List Command}
    {result : Except (Abort SaveError) SaveOutcome} (configured : saver.config.validate = .ok ())
    (valid : ∀ c ∈ commands, c.validate = .ok ())
    (run : (saver.save manner commands).Runs trace result)
    (written : ∀ x ∈ trace, ¬ x.FailsToWrite) (succeed : TripsSucceed manner trace)
    (inRange : rowsReported trace < 2 ^ 64) :
    let maxParameters := saver.config.batch.maxParameters.toNat
    ((∃ o, result = .ok o) ↔ ∀ c ∈ commands, c.parameterCount ≤ maxParameters) ∧
    ((∃ c ∈ commands, maxParameters < c.parameterCount) →
      ∃ before k later, commands = before ++ k :: later ∧
        (∀ c ∈ before, c.parameterCount ≤ maxParameters) ∧ maxParameters < k.parameterCount ∧
        result = .error (.failed ⟨.unsupported, .batch,
          "command for table '" ++ k.table ++ "' exceeds the batch limits on its own"⟩) ∧
        saver.plan.HasSent trace before ∧ draws trace = before ++ [k]) := by
  intro maxParameters
  obtain ⟨_, _, outcome, rfl, ran, done⟩ := Program.runs_bind.mp run
  obtain ⟨rfl, rfl⟩ := Program.runs_done_iff.mp done
  rw [List.append_nil] at written succeed inRange ⊢
  have undisturbed : Undisturbed manner ({} : SaveOutcome).rowsAffected _ :=
    ⟨written, succeed, (Nat.zero_add _).symm ▸ inRange⟩
  have fared : saver.plan.Fared maxParameters commands _ outcome :=
    (Save.run_course ran).fares rfl (Config.maxBatchSize_pos configured) valid (.start _ commands)
      nofun undisturbed
  constructor
  · rw [← fared.isOk_iff]
    cases outcome with
    | ok o => simp [Except.mapError]
    | error abort => simp [Except.mapError]
  · rintro ⟨c, member, large⟩
    cases fared with
    | saved o small => exact absurd (small c member) (by omega)
    | stopped split small large sent drawn =>
      exact ⟨_, _, _, split, small, large, rfl, sent, drawn⟩

/-- A batch of two deletes and a third one are sent before an insert of three values that closes the
batch of the third; the delete behind it is not drawn. -/
theorem Saver.save_stops_at_oversized_between_deletes :
    let text (name parameter : String) : Column :=
      ⟨name, ⟨"TEXT", .string⟩, .written, .text name, .null, false, some parameter, none⟩
    let page : Command := ⟨"pages", none, .insert, 3,
      [text "title" "p3", text "lead" "p4", text "body" "p5"]⟩
    let commands : List Command := [.keyDelete 0, .keyDelete 1, .keyDelete 2, page, .keyDelete 6]
    let saver : Saver :=
      { config := { batch := { maxBatchSize := 2, maxParameters := 2, minBatchSize := 1 } } }
    let played := (saver.save .blocking commands).play
      (Surroundings.scripted (Dialect.plain atPlaceholder))
      { responses := [.ok [[[.int 1]], [[.int 1]]], .ok [[[.int 1]]]] }
    saver.config.validate = .ok () ∧ (∀ c ∈ commands, c.validate = .ok ()) ∧
    (saver.save .blocking commands).Runs played.journal played.result ∧
    (∀ x ∈ played.journal, ¬ x.FailsToWrite) ∧ TripsSucceed .blocking played.journal ∧
    rowsReported played.journal = 3 ∧ 2 < page.parameterCount ∧
    ∃ before k later, commands = before ++ k :: later ∧
      (∀ c ∈ before, c.parameterCount ≤ 2) ∧ 2 < k.parameterCount ∧
      played.result = .error (.failed ⟨.unsupported, .batch,
        "command for table '" ++ k.table ++ "' exceeds the batch limits on its own"⟩) ∧
      saver.plan.HasSent played.journal before ∧ draws played.journal = before ++ [k] := by
  intro text page commands saver played
  have configured : saver.config.validate = .ok () := by decide
  have valid : ∀ c ∈ commands, c.validate = .ok () := by decide
  have run : (saver.save .blocking commands).Runs played.journal played.result :=
    Program.runs_play _ _ _
  have written : ∀ x ∈ played.journal, ¬ x.FailsToWrite :=
    Surroundings.scripted_writes (fun _ => rfl) _ _
  have rows : (events played.journal).filterMap (·.finished?) = [2, 1] := by cbv
  have succeed : TripsSucceed .blocking played.journal :=
    tripsSucceed_of_rows (by rw [rows]; decide)
  have reported : rowsReported played.journal = 3 := congrArg List.sum rows
  have large : 2 < page.parameterCount := by decide
  have stops := Saver.save_stops_at_oversized configured valid run written succeed
    (by rw [reported]; decide)
  exact ⟨configured, valid, run, written, succeed, reported, large,
    stops.2 ⟨page, by decide, large⟩⟩

end BatchedSave
