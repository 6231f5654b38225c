import BatchedSave.Proofs.Program.OverCursor

/-!
# A store that has a result set for every command

A `Feed` has the result sets of a save's commands ready, one for each. It answers a statement with
the result sets of the commands that were written for it, however many these are, and neither the
dialect nor the connection ever fails. What else surrounds a program is left open: `Fed` only
follows the exchanges of a trace and says that they are the feed's.
-/
namespace BatchedSave

/-- The result sets of the commands still to be written, those of the commands written since the
last statement was executed, and the results being read. -/
structure Feed where
  coming : List ResultSet
  written : List ResultSet := []
  cursor : Cursor := .empty

namespace Feed

/-- The answer to a request where `answer` would be given without the feed. -/
def answer (f : Feed) : (r : Request) → r.Answer → r.Answer
  | .fragment _, rendering => { rendering with failure := none }
  | .store .connect, _ => .ok ()
  | .store (.query _), _ => .ok ()
  | .store (.reader call), _ => (f.cursor.serve call).1
  | .fieldCount, _ => f.cursor.fieldCount
  | _, answer => answer

/-- The feed after a request. -/
def next (f : Feed) : Request → Feed
  | .fragment _ => { f with coming := f.coming.drop 1, written := f.written ++ f.coming.take 1 }
  | .store (.query _) => { f with written := [], cursor := .ofSets f.written }
  | .store (.reader call) => { f with cursor := (f.cursor.serve call).2 }
  | _ => f

/-- The exchange was answered as the feed answers. -/
def Allows (f : Feed) (x : Exchange) : Prop :=
  x.answer = f.answer x.request x.answer

end Feed

/-- The exchanges of the trace are those of the feed `f`, which is then `f'`. -/
inductive Fed : Feed → List Exchange → Feed → Prop
  | nil (f : Feed) : Fed f [] f
  | cons {f f' : Feed} {x : Exchange} {trace : List Exchange} (allowed : f.Allows x)
      (rest : Fed (f.next x.request) trace f') : Fed f (x :: trace) f'

/-- The surroundings `A` with a feed in front of them. -/
def Surroundings.feeding {σ : Type} (A : Surroundings σ) : Surroundings (Feed × σ)
  | r, (f, s) =>
    let told := A r s
    (f.answer r told.1, f.next r, told.2)

/-- A request that reads results or makes them take effect. -/
def Request.OfReading : Request → Prop
  | .store (.reader _) | .fieldCount | .writeBack .. | .record _ => True
  | _ => False

namespace Fed

variable {σ α : Type} {A : Surroundings σ} {p : Program α} {a b : α} {after : Cursor}
variable {trace first second : List Exchange} {f f' : Feed}

theorem append_iff : Fed f (first ++ second) f' ↔ ∃ between, Fed f first between ∧
    Fed between second f' := by
  induction first generalizing f with
  | nil =>
    constructor
    · exact fun fed => ⟨f, .nil f, fed⟩
    · rintro ⟨_, ⟨⟩, fed⟩
      exact fed
  | cons x first ih =>
    constructor
    · rintro (_ | ⟨allowed, rest⟩)
      obtain ⟨between, here, there⟩ := ih.mp rest
      exact ⟨between, .cons allowed here, there⟩
    · rintro ⟨between, _ | ⟨allowed, here⟩, there⟩
      exact .cons allowed (ih.mpr ⟨between, here, there⟩)

/-- In front of any surroundings a feed answers as feeds do. -/
theorem play (p : Program α) (f : Feed) (s : σ) :
    Fed f (p.play A.feeding (f, s)).journal (p.play A.feeding (f, s)).state.1 := by
  induction p generalizing f s with
  | done a => exact .nil f
  | ask r next ih =>
    refine .cons ?_ (ih _ (f.next r) (A r s).2)
    cases r with
    | store call => cases call <;> rfl
    | _ => rfl

/-- What reads results from a feed does what it does over the feed's cursor. The induction is on the
run; each of its exchanges has the answer of the cursor, or the only answer there is. -/
theorem plays (run : p.Runs trace a) (reading : ∀ x ∈ trace, x.request.OfReading)
    (fed : Fed f trace f') (s : σ) :
    (p.play A.overCursor (f.cursor, s)).result = a ∧
      f' = { f with cursor := (p.play A.overCursor (f.cursor, s)).state.1 } := by
  induction run generalizing f s with
  | done a =>
    cases fed
    exact ⟨rfl, rfl⟩
  | @ask r next trace a answer _ ih =>
    obtain ⟨here, later⟩ := List.forall_mem_cons.mp reading
    obtain _ | ⟨allowed, rest⟩ := fed
    cases r with
    | store call =>
      cases call with
      | reader call =>
        obtain rfl : answer = (f.cursor.serve call).1 := allowed
        exact ih later rest s
      | _ => exact here.elim
    | fieldCount =>
      obtain rfl : answer = f.cursor.fieldCount := allowed
      exact ih later rest s
    | writeBack entry column value => exact ih later rest (A (.writeBack entry column value) s).2
    | record event => exact ih later rest (A (.record event) s).2
    | _ => exact here.elim

theorem reads (run : p.Runs trace a) (reading : ∀ x ∈ trace, x.request.OfReading)
    (fed : Fed f trace f') (s : σ) (reads : p.Reads A f.cursor b after) :
    a = b ∧ f' = { f with cursor := after } := by
  obtain ⟨rfl, rfl⟩ := plays (A := A) run reading fed s
  obtain ⟨result, moved⟩ := reads s
  exact ⟨result, by rw [moved]⟩

end Fed

end BatchedSave
