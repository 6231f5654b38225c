import BatchedSave.Proofs.RoundTrip.Reporting
import BatchedSave.Proofs.Save.Greedy

/-!
# Row totals

The rows of a save are summed up command by command and round trip by round trip, each sum within
`2 ^ 64`. A single count can be half of that, so accepted counts need not sum up in range.
`run_totals` tells what becomes of a save all of whose round trips are accepted: the exact total
over all commands if it is in range, and otherwise the early end at which it leaves the range, when
the commands behind it have been applied and written back already.
-/
namespace BatchedSave

/-- A count of rows is a whole number of 64 bits with a sign. -/
theorem Value.rowCount?_lt {v : Value} {rows : Nat} (counted : v.rowCount? = some rows) :
    rows < 2 ^ 63 := by
  unfold rowCount? at counted
  split at counted
  next n =>
    split at counted
    · have bound := Int64.toInt_lt n
      obtain rfl := Option.some.inj counted
      omega
    · cases counted
  next => cases counted

theorem Command.affectedBy_lt (c : Command) (row : Row) : c.affectedBy row < 2 ^ 63 := by
  unfold affectedBy
  split
  · cases counted : (row.getLast?.getD .null).rowCount? with
    | none => simp
    | some rows => exact Value.rowCount?_lt counted
  · simp

/-- The rows affected by commands that were settled. -/
def settledRows (settled : List Settlement) : Nat :=
  (settled.map fun s => s.before.affectedBy s.row).sum

theorem settledRows_append (first second : List Settlement) :
    settledRows (first ++ second) = settledRows first + settledRows second := by
  rw [settledRows, List.map_append, List.sum_append, settledRows, settledRows]

/-- What a save comes to that settled commands, going on from an outcome: all of them with the exact
total, or the early end when the total of some of them is out of range. -/
inductive Summed (o : SaveOutcome) (commands : List Command) (settled : List Settlement) :
    Except (Abort Error) SaveOutcome → Prop
  | counted (batches : Nat) (all : settled.map (·.before) = commands)
      (inRange : o.rowsAffected + settledRows settled < totalBound) :
    Summed o commands settled
      (.ok ⟨o.commands ++ settled.map (·.after), o.rowsAffected + settledRows settled, batches⟩)
  | outOfRange (some : settled.map (·.before) <+: commands)
      (excess : totalBound ≤ o.rowsAffected + settledRows settled) :
    Summed o commands settled (.error .totalOutOfRange)

/-- Unless something failed, the trace settles commands from an outcome on by the rows it delivers,
all of them, and writes back what the commands received. -/
def Sums (o : SaveOutcome) (commands : List Command) (trace : List Exchange)
    (result : Except (Abort Error) SaveOutcome) : Prop :=
  (∀ e, result ≠ .error (.failed e)) → ∃ settled : List Settlement,
    Summed o commands settled result ∧
    deliveries trace = settled.flatMap (·.row.zipIdx) ∧
    writeBacks trace = settled.flatMap fun s => s.before.writeBacks s.row

namespace Sums

variable {o o' : SaveOutcome} {commands others : List Command} {first second : List Exchange}
variable {result : Except (Abort Error) SaveOutcome}

theorem failed {e : Error} : Sums o commands first (.error (.failed e)) :=
  fun accepted => absurd rfl (accepted e)

theorem nothing (inRange : o.rowsAffected < totalBound) : Sums o [] [] (.ok o) := by
  have counted : Summed o [] [] (.ok ⟨o.commands ++ [], o.rowsAffected + 0, o.batches⟩) :=
    .counted o.batches rfl inRange
  rw [List.append_nil, Nat.add_zero] at counted
  exact fun _ => ⟨[], counted, rfl, rfl⟩

/-- The first commands were counted, and it goes on with the others. -/
theorem append (here : Sums o commands first (.ok o')) (there : Sums o' others second result) :
    Sums o (commands ++ others) (first ++ second) result := by
  intro accepted
  obtain ⟨settled, counted, delivered, written⟩ := here nofun
  obtain ⟨settled', summed, delivered', written'⟩ := there accepted
  refine ⟨settled ++ settled', ?_, ?_, ?_⟩
  · cases counted with
    | counted _ all inRange =>
      have total : o.rowsAffected + settledRows settled + settledRows settled' =
          o.rowsAffected + settledRows (settled ++ settled') := by
        rw [settledRows_append, Nat.add_assoc]
      cases summed with
      | counted batches all' inRange' =>
        rw [total] at inRange'
        have whole : (settled ++ settled').map (·.before) = commands ++ others := by
          rw [List.map_append, all, all']
        rw [total, List.append_assoc, ← List.map_append]
        exact .counted batches whole inRange'
      | outOfRange some excess =>
        rw [total] at excess
        refine .outOfRange ?_ excess
        rw [List.map_append, all]
        exact (List.prefix_append_right_inj _).mpr some
  · rw [deliveries_append, delivered, delivered', List.flatMap_append]
  · rw [writeBacks_append, written, written', List.flatMap_append]

/-- The total left the range, so none of the others is settled. -/
theorem early {abort : Abort Error} (here : Sums o commands first (.error abort)) :
    Sums o (commands ++ others) first (.error abort) := by
  intro accepted
  obtain ⟨settled, summed, delivered, written⟩ := here accepted
  refine ⟨settled, ?_, delivered, written⟩
  cases summed with
  | outOfRange some excess => exact .outOfRange (some.trans (List.prefix_append _ _)) excess

/-- What involves neither the connection nor an entry makes no difference. -/
theorem behind (idle : Idle first) (there : Sums o commands second result) :
    Sums o commands (first ++ second) result := by
  intro accepted
  obtain ⟨settled, summed, delivered, written⟩ := there accepted
  refine ⟨settled, summed, ?_, ?_⟩
  · rw [deliveries_append, idle.deliveries_eq_nil, delivered, List.nil_append]
  · rw [writeBacks_append, idle.writeBacks_eq_nil, written, List.nil_append]

end Sums

/-! ### One round trip -/

section RoundTrip

variable {b : Batch} {manner : Manner} {trace : List Exchange} {o : SaveOutcome}

/-- A round trip that was accepted settles all commands of its batch. -/
theorem sums_posted {result : Except (Abort Error) Executed} (filled : b.commands ≠ [])
    (run : (b.execute manner).Runs trace result) :
    Sums o b.commands trace (result >>= o.absorb) := by
  intro accepted
  rcases Batch.execute_reports filled run with ⟨-, _, e, -, rfl⟩ | ⟨settled, untouched, span⟩
  · exact absurd rfl (accepted e)
  have split := span.commands_eq
  have delivered := span.whole
  have written := span.written
  cases span.ends with
  | failed => exact absurd rfl (accepted _)
  | outOfRange excess =>
    rw [List.append_nil] at split
    refine ⟨settled, .outOfRange (by rw [split]) ?_, delivered rfl, written⟩
    exact Nat.le_trans excess (Nat.le_add_left _ _)
  | executed =>
    rw [List.append_nil] at split
    refine ⟨settled, ?_, delivered rfl, written⟩
    have absorbs : (Except.ok ⟨settled.map (·.after), settled.map (·.applied.rows)⟩ >>= o.absorb) =
        if o.rowsAffected + settledRows settled < totalBound then
          .ok ⟨o.commands ++ settled.map (·.after), o.rowsAffected + settledRows settled,
            o.batches + 1⟩
        else .error .totalOutOfRange := rfl
    rw [absorbs]
    split
    next inRange => exact .counted _ split.symm inRange
    next excess => exact .outOfRange (by rw [split]) (Nat.le_of_not_lt excess)

end RoundTrip

/-! ### The whole save -/

/-- Outcomes stay in range. -/
theorem Summed.inRange {o o' : SaveOutcome} {commands : List Command} {settled : List Settlement}
    (summed : Summed o commands settled (.ok o')) : o'.rowsAffected < totalBound := by
  cases summed with
  | counted _ _ inRange => exact inRange

namespace Save

variable {s : Save} {manner : Manner} {trace : List Exchange} {o : SaveOutcome}
variable {header : String} {held : List Command}

/-- One group that is sent. -/
theorem sums_group {known : Option String} {limits : Limits} {group : List Command}
    {opening posted : List Exchange} {result : Except (Abort Error) Executed}
    {final : Except (Abort Error) SaveOutcome} (filled : group ≠ [])
    (began : Begun known opening header)
    (run : ((s.holding limits header group).execute manner).Runs posted result)
    (made : result >>= o.absorb = final) : Sums o group (opening ++ posted) final := by
  have sums := sums_posted (o := o) filled run
  rw [made] at sums
  exact sums.behind began.idle

/-- Groups that are sent one after the other. The induction is on the evidence; the outcome it
starts from is in range, and so is every later one. -/
theorem Delivered.sums {known : Option String} {groups : List (List Command)}
    {result : Except (Abort Error) SaveOutcome} (nonempty : ∀ group ∈ groups, group ≠ [])
    (delivered : s.Delivered manner known o groups trace result)
    (within : o.rowsAffected < totalBound) : Sums o groups.flatten trace result := by
  induction delivered with
  | done => exact .nothing within
  | failed began run =>
    rw [List.flatten_cons]
    exact (sums_group (nonempty _ List.mem_cons_self) began run rfl).early
  | overflowed began run excess =>
    rw [List.flatten_cons]
    exact (sums_group (nonempty _ List.mem_cons_self) began run excess).early
  | next began run absorbed more ih =>
    obtain ⟨here, others⟩ := List.forall_mem_cons.mp nonempty
    obtain ⟨inRange, rfl⟩ := absorb_ok_iff.mp absorbed
    rw [List.flatten_cons]
    exact (sums_group here began run absorbed).append (ih others inRange)

theorem Sent.sums {result : Except (Abort Error) SaveOutcome} (filled : held ≠ [])
    (sent : s.Sent manner header held o trace result) (within : o.rowsAffected < totalBound) :
    Sums o held trace result := by
  obtain ⟨rest, rfl, delivered⟩ := sent
  have logged : Idle [⟨.log (.executingBatch held.length (viewOf held).parameterCount), ()⟩] :=
    idle_cons trivial idle_nil
  have sums := delivered.sums (parcels_ne_nil s.minBatchSize filled) within
  rw [parcels_flatten] at sums
  exact sums.behind logged

/-- A save settles the commands it holds and those it draws. The induction is on the evidence for
the course of the save. -/
theorem Course.sums {drawn : Bool} {stream : List Command}
    {result : Except (Abort Error) SaveOutcome}
    (course : s.Course manner o header held drawn stream trace result)
    (within : o.rowsAffected < totalBound) : Sums o (held ++ stream) trace result := by
  have pulled (next : Option Command) : Idle [⟨.pull next, ()⟩] := idle_cons trivial idle_nil
  induction course with
  | finished => exact (Sums.nothing within).behind (pulled none)
  | last filled sent =>
    rw [List.append_nil]
    exact (sent.sums filled within).behind (pulled none)
  | draw _ ih => exact (ih within).behind (pulled _)
  | stopped => exact .failed
  | oversized => exact .failed
  | added trial _ ih =>
    have more := ih within
    rw [List.append_assoc] at more
    exact more.behind trial.idle
  | failing filled trial sent =>
    exact ((sent.sums filled within).behind trial.idle).early
  | closed filled trial sent _ ih =>
    have here := (sent.sums filled within).behind trial.idle
    intro accepted
    obtain ⟨_, summed, -⟩ := here nofun
    exact here.append (ih summed.inRange) accepted

/-- A save none of whose round trips is refused has settled commands in order by the rows its store
has delivered, each of which affected at least one row and fewer than `2 ^ 63`, and written back
what they received. It returns just if their rows sum up below `2 ^ 64`, and then it has settled all
commands and tells the exact total; otherwise it ends at the sum, although all it has settled stays
applied. -/
theorem run_totals {commands : List Command} {result : Except (Abort Error) SaveOutcome}
    (accepted : ∀ e, result ≠ .error (.failed e))
    (run : (s.run manner commands).Runs trace result) :
    ∃ settled : List Settlement, settled.map (·.before) <+: commands ∧
      deliveries trace = settled.flatMap (·.row.zipIdx) ∧
      writeBacks trace = settled.flatMap (fun x => x.before.writeBacks x.row) ∧
      (∀ x ∈ settled, 0 < x.before.affectedBy x.row ∧ x.before.affectedBy x.row < 2 ^ 63) ∧
      ((settledRows settled < 2 ^ 64 ∧ settled.map (·.before) = commands ∧
          ∃ o, result = .ok o ∧ o.rowsAffected = settledRows settled ∧
            o.commands = settled.map (·.after)) ∨
        (2 ^ 64 ≤ settledRows settled ∧ result = .error .totalOutOfRange)) := by
  have sums : Sums {} ([] ++ commands) trace result := (run_course run).sums (by decide)
  obtain ⟨settled, summed, delivered, written⟩ := sums accepted
  have bounds : ∀ x ∈ settled, 0 < x.before.affectedBy x.row ∧ x.before.affectedBy x.row < 2 ^ 63 :=
    fun x _ => ⟨x.affected, x.before.affectedBy_lt x.row⟩
  have start : ({} : SaveOutcome).rowsAffected + settledRows settled = settledRows settled :=
    Nat.zero_add _
  cases summed with
  | counted batches all inRange =>
    rw [start] at inRange
    refine ⟨settled, all ▸ List.prefix_rfl, delivered, written, bounds, .inl ⟨inRange, all, ?_⟩⟩
    exact ⟨_, rfl, start, List.nil_append _⟩
  | outOfRange some excess =>
    rw [start] at excess
    exact ⟨settled, some, delivered, written, bounds, .inr ⟨excess, rfl⟩⟩

/-- Three deletes whose counts are accepted one by one, but sum up to `2 ^ 64`. -/
theorem run_totals_of_three_deletes :
    let save : Save := { limits := .caps 3 9 }
    let deletes := [Command.keyDelete 0, .keyDelete 1, .keyDelete 2]
    let most : Value := .int 9223372036854775807
    let played := (save.run .blocking deletes).play
      (Surroundings.scripted (Dialect.plain atPlaceholder))
      { responses := [.ok [[[most]], [[most]], [[.int 2]]]] }
    played.result = .error .totalOutOfRange ∧
      (∀ e, played.result ≠ .error (.failed e)) ∧
      ∃ settled : List Settlement, settled.map (·.before) <+: deletes ∧
        deliveries played.journal = settled.flatMap (·.row.zipIdx) ∧
        writeBacks played.journal = settled.flatMap (fun x => x.before.writeBacks x.row) ∧
        (∀ x ∈ settled, 0 < x.before.affectedBy x.row ∧ x.before.affectedBy x.row < 2 ^ 63) ∧
        2 ^ 64 ≤ settledRows settled := by
  intro save deletes most played
  have overflowed : played.result = .error .totalOutOfRange := by decide +kernel
  have accepted : ∀ e, played.result ≠ .error (.failed e) := by
    intro e same
    rw [overflowed] at same
    cases same
  have run : (save.run .blocking deletes).Runs played.journal played.result :=
    Program.runs_play _ _ _
  obtain ⟨settled, some, delivered, written, bounds, ⟨-, -, o, same, -⟩ | ⟨excess, -⟩⟩ :=
    run_totals accepted run
  · rw [overflowed] at same
    cases same
  · exact ⟨overflowed, accepted, settled, some, delivered, written, bounds, excess⟩

end Save

end BatchedSave
