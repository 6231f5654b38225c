import Mathlib
import BatchedSave.Proofs.Save.Suspension

/-!
# Reading results again

A reconciliation that stopped keeps what it has applied, and its results can be read again. The
blocking walk then first moves to the result set of the next command. The suspending walk does not
know that it is taken up again: it goes on in the current result set, as if that were the next
command's, even if there is no next command. `walkEntered` is what the two have in common, the walk
from a result set that has been entered, and `consume_again` says from which states on they agree.
-/
namespace BatchedSave

open Program

namespace Reconciliation

/-- Reconciles `c` and the commands behind it where the result set of `c` has been entered. -/
def walkEntered (manner : Manner) (applied : List Applied) (c : Command) (rest : List Command) :
    Program (Reconciliation × Except (Abort Error) Unit) :=
  orStop applied (c :: rest)
    (c.readOutcomeIn manner applied.length >>= fun outcome => c.complete applied.length outcome)
    fun a => widened <$> walkIn manner (applied ++ [a]) rest

section Entering

variable (manner : Manner) (applied : List Applied) (c : Command) (rest : List Command)

/-- The walk enters a result set and goes on from there. -/
theorem walkIn_cons :
    widened <$> walkIn manner applied (c :: rest) =
      orStop applied (c :: rest) (manner.enterSet applied.length) fun _ =>
        walkEntered manner applied c rest := by
  have reconciled : widened <$> walkIn manner applied (c :: rest) =
      orStop applied (c :: rest) (c.reconcileIn manner applied.length) fun a =>
        widened <$> walkIn manner (applied ++ [a]) rest := by
    rw [walkIn, map_bind]
    refine bind_congr fun outcome => ?_
    cases outcome <;> rfl
  rw [reconciled, Command.reconcileIn, orStop_bind]
  rfl

/-- The machine that is to enter a row has entered the result set already. -/
theorem advance_enterRow_eq :
    advance applied (c :: rest) .enterRow = walkEntered .suspending applied c rest := by
  have behind (a : Applied) :
      advance (applied ++ [a]) rest (if rest.isEmpty then .finish else .nextSet) =
        widened <$> walkIn .suspending (applied ++ [a]) rest := by
    rw [walkIn_suspending]
    simp [entry]
  simp only [advance_enterRow, advance_complete, walkEntered, orStop_bind, behind]

theorem walkEntered_alike : Alike fun manner => walkEntered manner applied c rest := by
  have read : Alike fun manner => (c.readOutcomeIn manner applied.length >>= fun outcome =>
      c.complete applied.length outcome).run :=
    (readOutcomeIn_alike c _).attempt_bind fun outcome =>
      alike_of_local (c.complete_local applied.length outcome)
  refine read.bind fun outcome => ?_
  cases outcome with
  | error e => rfl
  | ok a => exact (walkIn_alike (applied ++ [a]) rest).map widened

end Entering

variable {r : Reconciliation} {trace : List Exchange}

theorem consumeSuspending_pending {c : Command} {rest : List Command}
    (pending : r.pending = c :: rest) :
    r.consumeSuspending = walkEntered .suspending r.applied c rest := by
  have some : r.commands.isEmpty = false := by simp [commands, pending]
  rw [consumeSuspending, some, pending]
  exact advance_enterRow_eq r.applied c rest

/-- Where there never was a command, only the end of the results is looked for. -/
theorem consumeSuspending_nothing (none : r.commands = []) :
    r.consumeSuspending = widened <$> walkIn .suspending [] [] := by
  obtain ⟨applied, pending⟩ := r
  obtain ⟨rfl, rfl⟩ : applied = [] ∧ pending = [] := by simpa [commands] using none
  rw [walkIn_suspending]
  rfl

/-- Where all commands have been applied, one row is asked for that no command is there for. -/
theorem consumeSuspending_done (done : r.pending = []) (past : 0 < r.position) :
    r.consumeSuspending = orStop r.applied [] (suspend .reader (.reader .nextRow)) fun _ =>
      return (⟨r.applied, []⟩, .error .positionOutOfRange) := by
  have some : r.commands.isEmpty = false := by
    simpa [commands, done] using List.ne_nil_of_length_pos past
  rw [consumeSuspending, some, done]
  simp only [Bool.false_eq_true, if_false]
  rw [advance, orStop]
  refine bind_congr fun entered => ?_
  rcases entered with e | _ | _
  · rfl
  · simp [advance]
  · rfl

/-- Walking ends early with an error of its own, never beyond the commands. -/
theorem not_outOfRange_of_widened {p : Program (Reconciliation × Except Error Unit)}
    {after : Reconciliation} :
    ¬ (widened <$> p).Runs trace (after, .error .positionOutOfRange) := by
  intro run
  obtain ⟨⟨_, result⟩, same, -⟩ := runs_map.mp run
  cases result <;> cases same

theorem not_outOfRange_of_walkEntered {applied : List Applied} {c : Command} {rest : List Command}
    {manner : Manner} {after : Reconciliation} :
    ¬ (walkEntered manner applied c rest).Runs trace (after, .error .positionOutOfRange) := by
  intro run
  obtain ⟨_, _, outcome, rfl, -, behind⟩ := runs_bind.mp run
  cases outcome with
  | error e =>
    obtain ⟨-, same⟩ := runs_done_iff.mp behind
    cases same
  | ok a => exact not_outOfRange_of_widened behind

/-- What becomes of a reconciliation whose results are read again, whatever state it is in. As long
as nobody gives up, the two manners do the same exactly if no command has been applied yet. Where a
command is pending, the blocking walk moves to its result set first and then does what the
suspending walk does at once; where all commands have been applied, the suspending walk asks for a
row and then looks for a command beyond the last one. In no other state does it leave the range of
the commands. -/
theorem consume_again (r : Reconciliation) :
    (r.consumeSuspending.waiting = widened <$> r.consume ↔ r.position = 0) ∧
    (r.pending ≠ [] → widened <$> r.consume =
      orStop r.applied r.pending (Manner.blocking.enterSet r.position) fun _ =>
        r.consumeSuspending.waiting) ∧
    (r.pending = [] → 0 < r.position → r.consumeSuspending =
      orStop r.applied [] (suspend .reader (.reader .nextRow)) fun _ =>
        return (⟨r.applied, []⟩, .error .positionOutOfRange)) ∧
    ∀ trace after, r.consumeSuspending.Runs trace (after, .error .positionOutOfRange) →
      r.pending = [] ∧ 0 < r.position := by
  have blocking : widened <$> r.consume = widened <$> walkIn .blocking r.applied r.pending := by
    rw [walkIn_blocking]
    rfl
  have entering {c : Command} {rest : List Command} (pending : r.pending = c :: rest) :
      widened <$> r.consume = orStop r.applied r.pending (Manner.blocking.enterSet r.position)
        fun _ => r.consumeSuspending.waiting := by
    have alike : r.consumeSuspending.waiting = walkEntered .blocking r.applied c rest := by
      rw [consumeSuspending_pending pending]
      exact walkEntered_alike r.applied c rest
    rw [blocking, alike, pending]
    exact walkIn_cons .blocking r.applied c rest
  refine ⟨⟨fun same => ?_, fun first => ?_⟩, fun some => ?_, consumeSuspending_done, ?_⟩
  · -- behind a command the first call of one manner is not the first call of the other
    refine (Nat.eq_zero_or_pos _).resolve_right fun past => ?_
    cases pending : r.pending with
    | nil =>
      rw [consumeSuspending_done pending past, blocking, pending] at same
      cases same
    | cons c rest =>
      rw [entering pending, consumeSuspending_pending pending] at same
      simp only [Manner.enterSet, if_pos past] at same
      cases same
  · cases pending : r.pending with
    | nil =>
      have none : r.applied = [] := List.length_eq_zero_iff.mp first
      rw [consumeSuspending_nothing (by simp [commands, none, pending]), blocking, none, pending]
      exact (walkIn_alike [] []).map widened
    | cons c rest =>
      rw [entering pending, first]
      rfl
  · obtain ⟨c, rest, pending⟩ := List.exists_cons_of_ne_nil some
    exact entering pending
  · intro trace after run
    cases pending : r.pending with
    | nil =>
      refine ⟨rfl, Nat.pos_of_ne_zero fun first => ?_⟩
      have none : r.applied = [] := List.length_eq_zero_iff.mp first
      rw [consumeSuspending_nothing (by simp [commands, none, pending])] at run
      exact not_outOfRange_of_widened run
    | cons c rest =>
      rw [consumeSuspending_pending pending] at run
      exact absurd run not_outOfRange_of_walkEntered

/-- The first of two inserts has its key. Read again, its results are taken for those of the second
insert in one manner only; once both inserts have their keys, one manner asks for a further row. -/
theorem consume_again_behind_the_first :
    let second : Reconciliation := ⟨[⟨.identityInsert 0, 1⟩], [.identityInsert 1]⟩
    let none : Reconciliation := ⟨[⟨.identityInsert 0, 1⟩, ⟨.identityInsert 1, 1⟩], []⟩
    second.pending ≠ [] ∧ second.consumeSuspending.waiting ≠ widened <$> second.consume ∧
    (widened <$> second.consume =
      orStop second.applied second.pending (Manner.blocking.enterSet 1) fun _ =>
        second.consumeSuspending.waiting) ∧
    none.pending = [] ∧ 0 < none.position ∧
    none.consumeSuspending = orStop none.applied [] (suspend .reader (.reader .nextRow)) fun _ =>
      return (⟨none.applied, []⟩, .error .positionOutOfRange) := by
  intro second none
  obtain ⟨agree, behind, -⟩ := consume_again second
  obtain ⟨-, -, beyond, -⟩ := consume_again none
  have past : second.position ≠ 0 := by decide
  exact ⟨by decide, fun same => past (agree.mp same), behind (by decide), rfl, by decide,
    beyond rfl (by decide)⟩

/-- An insert has received its key, and its results are read again. There are no further ones, so
the blocking walk succeeds once more; the suspending walk leaves the range of the commands. -/
theorem consume_again_out_of_range :
    let A := Surroundings.scripted (Dialect.plain atPlaceholder)
    let first := (start [.identityInsert 0]).consumeSuspending.play A
      { cursor := .ofSets [[[.int 42]]] }
    let waiting := first.result.1.consume.play A { cursor := .empty }
    let suspending := first.result.1.consumeSuspending.play A { cursor := .empty }
    first.result = (⟨[⟨(Command.identityInsert 0).withGenerated [.int 42], 1⟩], []⟩, .ok ()) ∧
      waiting.result = (first.result.1, .ok ()) ∧
      suspending.result = (first.result.1, .error .positionOutOfRange) :=
  ⟨by cbv, by cbv, by cbv⟩

end Reconciliation

end BatchedSave
