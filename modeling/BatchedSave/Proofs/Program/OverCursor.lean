import BatchedSave.Proofs.Program.Surroundings

/-!
# Reading results held in memory

Surroundings whose reader is a cursor over result sets held in memory; everything else is as it was.
`Reads` tells what a program makes of such a cursor, whatever else surrounds it: the result, and
where the cursor then stands. It composes along a program, so a reading is followed piece by piece.
-/
namespace BatchedSave

/-- The surroundings `A` with a cursor for their reader. -/
def Surroundings.overCursor {σ : Type} (A : Surroundings σ) : Surroundings (Cursor × σ)
  | .store (.reader call), (cursor, s) =>
    let served := cursor.serve call
    (served.1, served.2, s)
  | .await (.reader call), (cursor, s) =>
    let served := cursor.serve call
    (some served.1, served.2, s)
  | .fieldCount, (cursor, s) => (cursor.fieldCount, cursor, s)
  | r, (cursor, s) =>
    let told := A r s
    (told.1, cursor, told.2)

namespace Program

/-- From the cursor `before` the program comes to `a` and leaves the cursor at `after`. -/
def Reads {σ α : Type} (A : Surroundings σ) (p : Program α) (before : Cursor) (a : α)
    (after : Cursor) : Prop :=
  ∀ s, (p.play A.overCursor (before, s)).result = a ∧
    (p.play A.overCursor (before, s)).state.1 = after

variable {σ α β ε : Type} {A : Surroundings σ} {before between after : Cursor}

theorem reads_done (a : α) : (done a).Reads A before a before :=
  fun _ => ⟨rfl, rfl⟩

theorem Reads.bind {p : Program α} {f : α → Program β} {a : α} {b : β}
    (first : p.Reads A before a between) (second : (f a).Reads A between b after) :
    (p >>= f).Reads A before b after := by
  intro s
  obtain ⟨result, moved⟩ := first s
  have rest := second (p.play A.overCursor (before, s)).state.2
  rw [← moved] at rest
  simp only [play_bind, result]
  exact rest

theorem Reads.attempt_bind {x : ExceptT ε Program α} {f : α → ExceptT ε Program β} {a : α}
    {result : Except ε β} (first : x.run.Reads A before (.ok a) between)
    (second : (f a).run.Reads A between result after) :
    (x >>= f).run.Reads A before result after := by
  rw [ExceptT.run_bind]
  exact first.bind second

theorem Reads.attempt_stop {x : ExceptT ε Program α} {f : α → ExceptT ε Program β} {e : ε}
    (first : x.run.Reads A before (.error e) after) :
    (x >>= f).run.Reads A before (.error e) after := by
  rw [ExceptT.run_bind]
  exact first.bind (reads_done _)

theorem Reads.forM {f : α → ExceptT ε Program PUnit} (xs : List α)
    (each : ∀ x, (f x).run.Reads A before (.ok ⟨⟩) before) :
    (xs.forM f).run.Reads A before (.ok ⟨⟩) before := by
  induction xs with
  | nil => exact reads_done _
  | cons x xs ih =>
    rw [List.forM_eq_forM, List.forM_cons]
    exact (each x).attempt_bind ih

theorem reads_liftExcept (before : Cursor) {x result : Except Error α} (same : x = result) :
    (liftExcept x : Attempt α).run.Reads A before result before := by
  subst same
  cases x <;> exact reads_done _

theorem Reads.lift {p : Program α} {a : α} (reads : p.Reads A before a after) :
    (liftM p : ExceptT ε Program α).run.Reads A before (.ok a) after :=
  reads.bind (reads_done _)

variable (A before) in
theorem reads_call (call : ReaderCall) :
    (wait (.reader call)).run.Reads A before (before.serve call).1 (before.serve call).2 :=
  fun _ => ⟨rfl, rfl⟩

variable (A before) in
theorem reads_fieldCount : (request .fieldCount).Reads A before before.fieldCount before :=
  fun _ => ⟨rfl, rfl⟩

theorem reads_record (event : Metrics.Notice) :
    (request (.record event)).Reads A before () before :=
  fun _ => ⟨rfl, rfl⟩

theorem reads_writeBack (entry : Nat) (column : String) (value : Value) :
    (request (.writeBack entry column value)).Reads A before () before :=
  fun _ => ⟨rfl, rfl⟩

end Program

end BatchedSave
