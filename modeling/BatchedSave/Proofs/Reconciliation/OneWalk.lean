import BatchedSave.RoundTrip

/-!
# One walk in two manners

The blocking walk is a loop over commands with a loop over values inside, the suspending walk a
machine of six steps. Both are instances of one walk that makes its calls in a given manner:
`walkIn_blocking` and `advance_eq_walkIn` say so as equalities of programs, hence of every request
made under every behaviour of the surroundings. Laws on reading results are then stated and proved
once, for `walkIn`.
-/
namespace BatchedSave

namespace Manner

/-- Reads the values of the current row from `ordinal` on, `count` of them. -/
def readValues (manner : Manner) (ordinal : Nat) : Nat → Attempt (List Value)
  | 0 => return []
  | count + 1 => do
    let value ← manner.perform .reader (.reader (.value ordinal))
    return value :: (← manner.readValues (ordinal + 1) count)

/-- Moves to the result set of the command at `index`; the first one's is the current set. -/
def enterSet (manner : Manner) (index : Nat) : Attempt Unit := do
  if 0 < index then
    if !(← manner.perform .reader (.reader .nextSet)) then
      throw (Violation.missingResultSet.toError index)

/-- Checks that no result set follows the last command's, which stands before `index`. -/
def finish (manner : Manner) (index : Nat) : Attempt Unit := do
  if ← manner.perform .reader (.reader .nextSet) then
    throw (Violation.unconsumedResultSet.toError index)

end Manner

namespace Command

/-- Leaves a row whose values have been read; no other may follow. -/
def leaveRowIn (c : Command) (manner : Manner) (index : Nat) (values : List Value) :
    Attempt RowOutcome := do
  if ← manner.perform .reader (.reader .nextRow) then
    throw (Violation.extraRow.toError index)
  liftExcept (c.rowOutcome index values)

/-- Reads the row that has been entered. -/
def readRowIn (c : Command) (manner : Manner) (index : Nat) : Attempt RowOutcome := do
  liftExcept (c.checkWidth index (← Program.request .fieldCount))
  let values ← manner.readValues 0 (ResultShape.ofCommand c).fieldCount
  c.leaveRowIn manner index values

/-- Reads the result of a command from the current result set. -/
def readOutcomeIn (c : Command) (manner : Manner) (index : Nat) : Attempt RowOutcome := do
  if ← manner.perform .reader (.reader .nextRow) then c.readRowIn manner index
  else return .missing

/-- Reconciles one command. -/
def reconcileIn (c : Command) (manner : Manner) (index : Nat) : Attempt Applied := do
  manner.enterSet index
  c.complete index (← c.readOutcomeIn manner index)

end Command

namespace Reconciliation

/-- Reconciles commands in order after those already applied. -/
def walkIn (manner : Manner) (applied : List Applied) :
    List Command → Program (Reconciliation × Except Error Unit)
  | [] => do
    let finished ← (manner.finish applied.length).run
    return (⟨applied, []⟩, finished)
  | c :: rest => do
    match ← (c.reconcileIn manner applied.length).run with
    | .error e => return (⟨applied, c :: rest⟩, .error e)
    | .ok a => walkIn manner (applied ++ [a]) rest

/-! ### The loop -/

theorem readValues_blocking (ordinal count : Nat) :
    Manner.blocking.readValues ordinal count = readValues ordinal count := by
  induction count generalizing ordinal with
  | zero => rfl
  | succ count ih =>
    simp only [Manner.readValues, readValues, ih]
    rfl

theorem readOutcomeIn_blocking (c : Command) (index : Nat) :
    c.readOutcomeIn .blocking index = c.readOutcome index := by
  simp only [Command.readOutcomeIn, Command.readRowIn, Command.leaveRowIn, Command.readOutcome,
    readValues_blocking]
  rfl

theorem reconcileIn_blocking (c : Command) (index : Nat) :
    c.reconcileIn .blocking index = c.reconcile index := by
  simp only [Command.reconcileIn, Command.reconcile, Manner.enterSet, readOutcomeIn_blocking]
  split
  · simp only [bind_assoc]
    congr 1
    funext moved
    cases moved <;> simp
  · simp

theorem walkIn_blocking (applied : List Applied) (pending : List Command) :
    walkIn .blocking applied pending = walk applied pending := by
  induction pending generalizing applied with
  | nil => rfl
  | cons c rest ih =>
    rw [walkIn, walk, reconcileIn_blocking]
    refine bind_congr fun reconciled => ?_
    cases reconciled with
    | error e => rfl
    | ok a => exact ih (applied ++ [a])

/-! ### The machine -/

/-- Goes on with the result of an attempt; a failure stops the machine where it is. -/
def orStop {α : Type} (applied : List Applied) (pending : List Command) (x : Attempt α)
    (next : α → Program (Reconciliation × Except (Abort Error) Unit)) :
    Program (Reconciliation × Except (Abort Error) Unit) := do
  match ← x.run with
  | .error e => return (⟨applied, pending⟩, .error (.failed e))
  | .ok a => next a

section Machine

variable {α β : Type} (applied : List Applied) (pending : List Command)
variable (next : α → Program (Reconciliation × Except (Abort Error) Unit))

theorem orStop_pure (a : α) : orStop applied pending (pure a) next = next a := rfl

theorem orStop_bind (x : Attempt β) (f : β → Attempt α) :
    orStop applied pending (x >>= f) next =
      orStop applied pending x fun b => orStop applied pending (f b) next := by
  simp only [orStop, ExceptT.run_bind, bind_assoc]
  congr 1
  funext outcome
  cases outcome <;> rfl

theorem orStop_lift (p : Program α) :
    orStop applied pending (liftM p : Attempt α) next = p >>= next := by
  simp [orStop]

theorem orStop_liftExcept (x : Except Error α) :
    orStop applied pending (liftExcept x : Attempt α) next =
      match x with
      | .error e => return (⟨applied, pending⟩, .error (.failed e))
      | .ok a => next a := by
  cases x <;> rfl

variable (c : Command) (rest : List Command)

theorem advance_complete (outcome : RowOutcome) :
    advance applied (c :: rest) (.complete outcome) =
      orStop applied (c :: rest) (c.complete applied.length outcome) fun a =>
        advance (applied ++ [a]) rest (if rest.isEmpty then .finish else .nextSet) := by
  rw [advance]
  refine bind_congr fun completed => ?_
  cases completed <;> rfl

theorem advance_leaveRow (staged : List Value) :
    advance applied (c :: rest) (.leaveRow staged) =
      orStop applied (c :: rest) (c.leaveRowIn .suspending applied.length staged) fun outcome =>
        advance applied (c :: rest) (.complete outcome) := by
  rw [advance, Command.leaveRowIn, orStop_bind]
  refine bind_congr fun left => ?_
  rcases left with e | more
  · rfl
  · cases more with
    | true => rfl
    | false =>
      simp only [Bool.false_eq_true, if_false, orStop_liftExcept, List.head?_cons]
      cases c.rowOutcome applied.length staged <;> rfl

/-- From a value on, the machine reads what the inner loop reads and stages it. -/
theorem advance_readValue (count ordinal : Nat) (staged : List Value)
    (ahead : ordinal + count = (ResultShape.ofCommand c).fieldCount) :
    advance applied (c :: rest) (.readValue ordinal staged) =
      orStop applied (c :: rest) (Manner.suspending.readValues ordinal count) fun values =>
        advance applied (c :: rest) (.leaveRow (staged ++ values)) := by
  induction count generalizing ordinal staged with
  | zero =>
    rw [advance, if_neg (by simp only [width]; omega)]
    simp [Manner.readValues, orStop]
  | succ count ih =>
    rw [advance, if_pos (by simp only [width]; omega), Manner.readValues, orStop_bind]
    refine bind_congr fun read => ?_
    rcases read with e | value
    · rfl
    · simp only [ih (ordinal + 1) (staged ++ [value]) (by omega), orStop_bind, orStop_pure,
        List.append_assoc, List.singleton_append]

theorem advance_enterRow :
    advance applied (c :: rest) .enterRow =
      orStop applied (c :: rest) (c.readOutcomeIn .suspending applied.length) fun outcome =>
        advance applied (c :: rest) (.complete outcome) := by
  rw [advance, Command.readOutcomeIn, orStop_bind]
  refine bind_congr fun entered => ?_
  rcases entered with e | more
  · rfl
  · cases more with
    | false => rfl
    | true =>
      simp only [if_true, Command.readRowIn, orStop_bind, orStop_lift, orStop_liftExcept,
        List.head?_cons]
      refine bind_congr fun found => ?_
      cases c.checkWidth applied.length found with
      | error e => rfl
      | ok _ =>
        have read := advance_readValue applied c rest _ 0 [] (Nat.zero_add _)
        simpa only [List.nil_append, advance_leaveRow] using read

/-- Where the machine starts on the next command: the first one's result set is the current one. -/
def entry (applied : List Applied) : Step :=
  if applied.isEmpty then .enterRow else .nextSet

theorem advance_entry :
    advance applied (c :: rest) (entry applied) =
      orStop applied (c :: rest) (c.reconcileIn .suspending applied.length) fun a =>
        advance (applied ++ [a]) rest (if rest.isEmpty then .finish else .nextSet) := by
  cases applied with
  | nil =>
    simp only [entry, List.isEmpty_nil, if_true, advance_enterRow, advance_complete,
      Command.reconcileIn, Manner.enterSet, orStop_bind, List.length_nil, Nat.lt_irrefl,
      if_false, orStop_pure]
  | cons first others =>
    rw [entry, List.isEmpty_cons, if_neg Bool.false_ne_true, advance, Command.reconcileIn,
      orStop_bind, Manner.enterSet, if_pos (by simp), orStop_bind]
    refine bind_congr fun moved => ?_
    rcases moved with e | _ | _
    · rfl
    · rfl
    · simp only [advance_enterRow, advance_complete, orStop_bind, Bool.not_true,
        Bool.false_eq_true, if_false, orStop_pure]

theorem advance_finish :
    advance applied [] .finish =
      orStop applied [] (Manner.suspending.finish applied.length) fun _ =>
        return (⟨applied, []⟩, .ok ()) := by
  rw [advance, Manner.finish, orStop_bind]
  refine bind_congr fun moved => ?_
  rcases moved with e | _ | _ <;> rfl

end Machine

/-- A reconciliation with an error in the wider sense in which a whole save may end early. -/
def widened (r : Reconciliation × Except Error Unit) :
    Reconciliation × Except (Abort Error) Unit :=
  (r.1, r.2.mapError .failed)

theorem walkIn_suspending (applied : List Applied) (pending : List Command) :
    widened <$> walkIn .suspending applied pending =
      advance applied pending (if pending.isEmpty then .finish else entry applied) := by
  induction pending generalizing applied with
  | nil =>
    simp only [List.isEmpty_nil, if_true, advance_finish, walkIn, orStop]
    rw [map_bind]
    refine bind_congr fun finished => ?_
    cases finished <;> rfl
  | cons c rest ih =>
    simp only [List.isEmpty_cons, Bool.false_eq_true, if_false, advance_entry, walkIn, orStop]
    rw [map_bind]
    refine bind_congr fun reconciled => ?_
    cases reconciled with
    | error e => rfl
    | ok a => simpa [entry] using ih (applied ++ [a])

/-- Fresh results are read by the one walk, in whichever manner. -/
theorem consumeIn_start (manner : Manner) (commands : List Command) :
    (start commands).consumeIn manner = widened <$> walkIn manner [] commands := by
  cases manner with
  | blocking => rw [walkIn_blocking]; rfl
  | suspending =>
    rw [walkIn_suspending]
    cases commands <;> rfl

end Reconciliation

end BatchedSave
