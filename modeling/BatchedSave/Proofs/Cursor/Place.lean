import BatchedSave.Proofs.Program.OverCursor

/-!
# Where a cursor stands

A cursor gives up what it has passed. To whoever uses it, it is a finger on result sets that stay as
they are: `Place` holds the index of the set and that of the row, and `Place.Answers` says how a
call is answered there. Where the finger is depends on the calls made so far and on nothing else.
`Cursor.At` ties what a cursor still holds to its place and is kept by every call;
`Cursor.answers_by_place` concludes that every program that uses a cursor is answered by the place,
so it enters no row twice and skips none.
-/
namespace BatchedSave

/-- The call on the reader, waited for or not. -/
def Exchange.readerCall? : Exchange → Option ReaderCall
  | ⟨.store (.reader call), _⟩ => some call
  | ⟨.await (.reader call), _⟩ => some call
  | _ => none

/-- A call that is to move the reader, and whether there was something to move to. -/
def Exchange.move? : Exchange → Option (ReaderCall × Bool)
  | ⟨.store (.reader .nextSet), .ok found⟩ => some (.nextSet, found)
  | ⟨.store (.reader .nextRow), .ok found⟩ => some (.nextRow, found)
  | ⟨.await (.reader .nextSet), some (.ok found)⟩ => some (.nextSet, found)
  | ⟨.await (.reader .nextRow), some (.ok found)⟩ => some (.nextRow, found)
  | _ => none

/-- A place among result sets: the set and the row in it, none before the first row. There need not
be such a set or row. -/
structure Place where
  set : Nat := 0
  row : Option Nat := none
  deriving DecidableEq, Repr

namespace Place

/-- The index of the row that comes next. -/
def next (p : Place) : Nat :=
  p.row.elim 0 (· + 1)

/-- The place a call leads to. -/
def after (p : Place) : ReaderCall → Place
  | .nextSet => { set := p.set + 1 }
  | .nextRow => { p with row := some p.next }
  | .value _ => p

/-- The place behind an exchange; only calls on the reader move it. -/
def passing (p : Place) (x : Exchange) : Place :=
  x.readerCall?.elim p p.after

/-- The place behind a trace. -/
def behind (p : Place) (trace : List Exchange) : Place :=
  trace.foldl passing p

section Sets

variable (sets : List ResultSet)

/-- The row at an index of a set, if there is one. -/
def rowAt (set row : Nat) : Option Row := do
  (← sets[set]?)[row]?

def row? (p : Place) : Option Row := do
  rowAt sets p.set (← p.row)

/-- The width of the row, none is zero wide. -/
def fieldCount (p : Place) : Nat :=
  (p.row? sets).elim 0 (·.length)

/-- The value at an ordinal of the row, or why there is none. -/
def value (p : Place) (ordinal : Nat) : Except String Value :=
  match p.row? sets with
  | none => .error "no current row"
  | some row =>
    match row[ordinal]? with
    | some v => .ok v
    | none => .error ("ordinal " ++ toString ordinal ++ " out of range for row of "
        ++ toString row.length ++ " value(s)")

/-- A call that moves tells whether the place it leads to exists. -/
def answer (p : Place) : (call : ReaderCall) → Except Error call.Result
  | .nextSet => .ok (sets[(p.after .nextSet).set]?).isSome
  | .nextRow => .ok ((p.after .nextRow).row? sets).isSome
  | .value ordinal => (p.value sets ordinal).mapError .readerInternal

/-- If the exchange is with the reader, it is answered as at this place. -/
def Answers (p : Place) : Exchange → Prop
  | ⟨.store (.reader call), told⟩ => told = p.answer sets call
  | ⟨.await (.reader call), told⟩ => told = some (p.answer sets call)
  | ⟨.fieldCount, width⟩ => width = p.fieldCount sets
  | _ => True

/-- Every exchange with the reader is answered as at the place to which the ones before it lead. -/
def Serves : Place → List Exchange → Prop
  | _, [] => True
  | p, x :: rest => p.Answers sets x ∧ (p.passing x).Serves rest

end Sets

/-- The rows that are entered from a place on, each by its set and its index there. -/
def entered (p : Place) : List Exchange → List (Nat × Nat)
  | [] => []
  | x :: rest =>
    let q := p.passing x
    if x.move? = some (.nextRow, true) then (q.set, p.next) :: q.entered rest else q.entered rest

end Place

variable {sets : List ResultSet} {p : Place} {trace : List Exchange}

/-! ### A cursor and its place -/

/-- What a cursor at a place holds: the row it stands on, the rows behind that, the sets behind the
current one. -/
structure Cursor.At (sets : List ResultSet) (p : Place) (c : Cursor) : Prop where
  row : c.row = p.row? sets
  ahead : c.ahead = (sets[p.set]?.getD []).drop p.next
  later : c.later = sets.drop (p.set + 1)

namespace Cursor.At

variable {c : Cursor}

theorem start (sets : List ResultSet) : (Cursor.ofSets sets).At sets {} := by
  cases sets <;> exact ⟨rfl, rfl, rfl⟩

theorem fieldCount (stands : c.At sets p) : c.fieldCount = p.fieldCount sets := by
  rw [Cursor.fieldCount, stands.row, Place.fieldCount]
  cases p.row? sets <;> rfl

theorem value (stands : c.At sets p) (ordinal : Nat) :
    c.value ordinal = (p.value sets ordinal).mapError .readerInternal := by
  rw [Cursor.value, stands.row, Place.value]
  cases p.row? sets with
  | none => rfl
  | some row =>
    dsimp only
    cases row[ordinal]? <;> rfl

/-- The sets behind the current one begin with the next one, if there is one. -/
theorem nextSet (stands : c.At sets p) :
    c.nextSet.1 = (sets[p.set + 1]?).isSome ∧ c.nextSet.2.At sets (p.after .nextSet) := by
  have later := stands.later
  unfold Cursor.nextSet
  by_cases inside : p.set + 1 < sets.length
  · rw [List.drop_eq_getElem_cons inside] at later
    simp only [later, List.getElem?_eq_getElem inside, Option.isSome_some, true_and]
    refine ⟨rfl, ?_, rfl⟩
    simp [Place.after, Place.next, List.getElem?_eq_getElem inside]
  · rw [List.drop_eq_nil_of_le (by omega)] at later
    have none : sets[p.set + 1]? = none := List.getElem?_eq_none (by omega)
    simp only [later, none, Option.isSome_none, true_and]
    refine ⟨rfl, by simp [Place.after, none], ?_⟩
    exact (List.drop_eq_nil_of_le (by simp [Place.after]; omega)).symm

/-- The rows ahead begin with the next one, if there is one. -/
theorem nextRow (stands : c.At sets p) :
    c.nextRow.1 = ((p.after .nextRow).row? sets).isSome ∧
      c.nextRow.2.At sets (p.after .nextRow) := by
  have ahead := stands.ahead
  have reached : (p.after .nextRow).row? sets = (sets[p.set]?.getD [])[p.next]? := by
    simp only [Place.row?, Place.after, Option.bind_eq_bind, Option.bind_some, Place.rowAt]
    cases sets[p.set]? <;> rfl
  unfold Cursor.nextRow
  by_cases inside : p.next < (sets[p.set]?.getD []).length
  · rw [List.drop_eq_getElem_cons inside] at ahead
    rw [List.getElem?_eq_getElem inside] at reached
    simp only [ahead, reached, Option.isSome_some, true_and]
    exact ⟨reached.symm, rfl, stands.later⟩
  · rw [List.drop_eq_nil_of_le (by omega)] at ahead
    rw [List.getElem?_eq_none (by omega)] at reached
    simp only [ahead, reached, Option.isSome_none, true_and]
    refine ⟨reached.symm, (List.drop_eq_nil_of_le ?_).symm, stands.later⟩
    change (sets[p.set]?.getD []).length ≤ p.next + 1
    omega

/-- A call on a cursor is answered as at its place and leads to the place the call leads to. -/
theorem serve (stands : c.At sets p) (call : ReaderCall) :
    (c.serve call).1 = p.answer sets call ∧ (c.serve call).2.At sets (p.after call) := by
  cases call with
  | nextSet => exact ⟨congrArg Except.ok stands.nextSet.1, stands.nextSet.2⟩
  | nextRow => exact ⟨congrArg Except.ok stands.nextRow.1, stands.nextRow.2⟩
  | value ordinal => exact ⟨stands.value ordinal, stands⟩

/-- Whoever uses a cursor is answered as at its place, call by call. The induction is on the
program; each exchange takes the cursor to its next place. -/
theorem serves {σ α : Type} {A : Surroundings σ} (stands : c.At sets p) (program : Program α)
    (s : σ) : p.Serves sets (program.play A.overCursor (c, s)).journal := by
  induction program generalizing c p s with
  | done a => trivial
  | ask r next ih =>
    cases r
    case store call =>
      cases call
      case reader call =>
        obtain ⟨told, moved⟩ := stands.serve call
        exact ⟨told, ih _ moved s⟩
      all_goals exact ⟨trivial, ih _ stands _⟩
    case await call =>
      cases call
      case reader call =>
        obtain ⟨told, moved⟩ := stands.serve call
        exact ⟨congrArg some told, ih _ moved s⟩
      all_goals exact ⟨trivial, ih _ stands _⟩
    case fieldCount => exact ⟨stands.fieldCount, ih _ stands s⟩
    all_goals exact ⟨trivial, ih _ stands _⟩

end Cursor.At

/-! ### What a place tells -/

namespace Place

variable {x : Exchange}

/-- What an exchange can be that is answered as at a place: it leaves the place as it is, or it
moves to a set or a row and tells whether that exists. -/
theorem Answers.cases (answers : p.Answers sets x) :
    (x.move? = none ∧ p.passing x = p) ∨
    (x.move? = some (.nextSet, (sets[p.set + 1]?).isSome) ∧ p.passing x = p.after .nextSet) ∨
    (x.move? = some (.nextRow, (rowAt sets p.set p.next).isSome) ∧
      p.passing x = p.after .nextRow) := by
  obtain ⟨request, told⟩ := x
  cases request
  case store call =>
    cases call
    case reader call =>
      cases call
      case value => exact .inl ⟨rfl, rfl⟩
      all_goals
        cases answers
        simp [Exchange.move?, passing, Exchange.readerCall?, answer, after, row?]
    all_goals exact .inl ⟨rfl, rfl⟩
  case await call =>
    cases call
    case reader call =>
      cases call
      case value => exact .inl ⟨rfl, rfl⟩
      all_goals
        cases answers
        simp [Exchange.move?, passing, Exchange.readerCall?, answer, after, row?]
    all_goals exact .inl ⟨rfl, rfl⟩
  all_goals exact .inl ⟨rfl, rfl⟩

theorem serves_append {before later : List Exchange} :
    p.Serves sets (before ++ later) ↔
      p.Serves sets before ∧ (p.behind before).Serves sets later := by
  induction before generalizing p with
  | nil => simp [Serves, behind]
  | cons x before ih => simp only [List.cons_append, Serves, ih, and_assoc, behind, List.foldl_cons]

end Place

/-! ### The rows that are entered -/

open Place

/-- A tour of result sets from a place on, by the moves it makes, and the rows it enters. -/
inductive Tour (sets : List ResultSet) : Place → List Exchange → List (Nat × Nat) → Prop
  | done (p : Place) : Tour sets p [] []
  | stay {p : Place} {x : Exchange} {trace : List Exchange} {rows : List (Nat × Nat)}
      (still : x.move? = none) (rest : Tour sets p trace rows) : Tour sets p (x :: trace) rows
  | nextSet {p : Place} {x : Exchange} {trace : List Exchange} {rows : List (Nat × Nat)}
      (moves : x.move? = some (.nextSet, (sets[p.set + 1]?).isSome))
      (rest : Tour sets (p.after .nextSet) trace rows) : Tour sets p (x :: trace) rows
  | enter {p : Place} {x : Exchange} {trace : List Exchange} {rows : List (Nat × Nat)}
      (moves : x.move? = some (.nextRow, true)) (found : (rowAt sets p.set p.next).isSome)
      (rest : Tour sets (p.after .nextRow) trace rows) :
    Tour sets p (x :: trace) ((p.set, p.next) :: rows)
  | miss {p : Place} {x : Exchange} {trace : List Exchange} {rows : List (Nat × Nat)}
      (moves : x.move? = some (.nextRow, false)) (missing : rowAt sets p.set p.next = none)
      (rest : Tour sets (p.after .nextRow) trace rows) : Tour sets p (x :: trace) rows

theorem Place.Serves.tour (serves : p.Serves sets trace) : Tour sets p trace (p.entered trace) := by
  induction trace generalizing p with
  | nil => exact .done p
  | cons x rest ih =>
    obtain ⟨here, later⟩ := serves
    have going := ih later
    simp only [entered]
    rcases here.cases with ⟨still, stays⟩ | ⟨moves, leads⟩ | ⟨moves, leads⟩
    · rw [stays] at going ⊢
      rw [if_neg (by simp [still])]
      exact .stay still going
    · rw [leads] at going ⊢
      rw [if_neg (by simp [moves])]
      exact .nextSet moves going
    · rw [leads] at going ⊢
      cases found : rowAt sets p.set p.next with
      | none =>
        rw [found] at moves
        rw [if_neg (by simp [moves])]
        exact .miss moves found going
      | some row =>
        rw [found] at moves
        rw [if_pos (by simp [moves])]
        exact .enter moves (by simp [found]) going

/-- A set with a row at some index has one at every index before. -/
theorem rowAt_isSome_of_succ {set row : Nat} (found : (rowAt sets set (row + 1)).isSome) :
    (rowAt sets set row).isSome := by
  unfold rowAt at found ⊢
  cases here : sets[set]? with
  | none => simp [here] at found
  | some rows =>
    simp [here] at found ⊢
    omega

namespace Tour

variable {rows : List (Nat × Nat)} {set row : Nat}

/-- Behind the last set nothing is found any more. -/
theorem exhausted (tour : Tour sets p trace rows) (last : sets.length ≤ p.set) :
    ∀ y ∈ trace, ∀ call, y.move? ≠ some (call, true) := by
  induction tour with
  | done => exact nofun
  | stay still _ ih => exact List.forall_mem_cons.mpr ⟨by simp [still], ih last⟩
  | @nextSet p _ _ _ moves _ ih =>
    have none : sets[p.set + 1]? = none := List.getElem?_eq_none (by omega)
    exact List.forall_mem_cons.mpr ⟨by simp [moves, none], ih (Nat.le_succ_of_le last)⟩
  | enter _ found => simp [rowAt, List.getElem?_eq_none last] at found
  | miss moves _ _ ih => exact List.forall_mem_cons.mpr ⟨by simp [moves], ih last⟩

/-- A row that is entered exists. -/
theorem row_exists (tour : Tour sets p trace rows) (member : (set, row) ∈ rows) :
    (rowAt sets set row).isSome := by
  induction tour with
  | done => cases member
  | stay _ _ ih => exact ih member
  | nextSet _ _ ih => exact ih member
  | enter _ found _ ih =>
    rcases List.mem_cons.mp member with same | later
    · cases same
      exact found
    · exact ih later
  | miss _ _ _ ih => exact ih member

/-- Only the next row and those behind it are entered. -/
theorem row_ahead (tour : Tour sets p trace rows) (member : (set, row) ∈ rows) :
    p.set < set ∨ (p.set = set ∧ p.next ≤ row) := by
  induction tour with
  | done => cases member
  | stay _ _ ih => exact ih member
  | nextSet _ _ ih =>
    have ahead := ih member
    simp only [after] at ahead
    omega
  | enter _ _ _ ih =>
    rcases List.mem_cons.mp member with same | later
    · cases same
      exact .inr ⟨rfl, Nat.le_refl _⟩
    · have ahead := ih later
      simp only [after, next, Option.elim_some] at ahead ⊢
      omega
  | miss _ _ _ ih =>
    have ahead := ih member
    simp only [after, next, Option.elim_some] at ahead ⊢
    omega

/-- Rows are entered in order, so none is entered twice. -/
theorem ordered (tour : Tour sets p trace rows) :
    rows.Pairwise fun a b => a.1 < b.1 ∨ (a.1 = b.1 ∧ a.2 < b.2) := by
  induction tour with
  | done => exact .nil
  | stay _ _ ih => exact ih
  | nextSet _ _ ih => exact ih
  | enter _ _ rest ih =>
    exact List.pairwise_cons.mpr ⟨fun _ member => rest.row_ahead member, ih⟩
  | miss _ _ _ ih => exact ih

/-- No row is entered before the one in front of it, unless that one had been passed already. -/
theorem gapless (tour : Tour sets p trace rows) (member : (set, row + 1) ∈ rows) :
    (set, row) ∈ rows ∨ (set = p.set ∧ row < p.next) := by
  induction tour with
  | done => cases member
  | stay _ _ ih => exact ih member
  | nextSet _ _ ih =>
    rcases ih member with there | ⟨-, impossible⟩
    · exact .inl there
    · exact absurd impossible (Nat.not_lt_zero row)
  | @enter p _ _ _ _ _ _ ih =>
    rcases List.mem_cons.mp member with same | later
    · simp only [Prod.mk.injEq] at same
      exact .inr ⟨same.1, by omega⟩
    · rcases ih later with there | ⟨same, passed⟩
      · exact .inl (List.mem_cons_of_mem _ there)
      · have passed : row < p.next + 1 := passed
        by_cases next : row = p.next
        · exact .inl (by simp [same, next, after])
        · exact .inr ⟨same, by omega⟩
  | @miss p _ _ _ _ missing rest ih =>
    rcases ih member with there | ⟨same, passed⟩
    · exact .inl there
    · have passed : row < p.next + 1 := passed
      -- where there is no next row, there is none behind it
      have present := rowAt_isSome_of_succ (rest.row_exists member)
      have other : row ≠ p.next := by
        intro next
        simp [same, next, after, missing] at present
      exact .inr ⟨same, by omega⟩

end Tour

/-! ### Reading from memory -/

/-- Every program that uses a cursor over result sets, waiting for its calls or not, is answered by
the place to which its calls so far have led. Once no further set was found, nothing is found any
more. The rows that are entered are entered in order, none twice and none before the one in front
of it. A cursor without contents is one over no result set. -/
theorem Cursor.answers_by_place {σ α : Type} (A : Surroundings σ) (sets : List ResultSet)
    (program : Program α) (s : σ) :
    let journal := (program.play A.overCursor (.ofSets sets, s)).journal
    let rows := ({} : Place).entered journal
    (∀ before x later, journal = before ++ x :: later →
      (({} : Place).behind before).Answers sets x ∧
      (x.move? = some (.nextSet, false) → ∀ y ∈ later, ∀ call, y.move? ≠ some (call, true))) ∧
    rows.Pairwise (fun a b => a.1 < b.1 ∨ (a.1 = b.1 ∧ a.2 < b.2)) ∧
    (∀ set row, (set, row + 1) ∈ rows → (set, row) ∈ rows) ∧
    Cursor.empty = .ofSets [] := by
  intro journal rows
  have serves : ({} : Place).Serves sets journal := (At.start sets).serves program s
  refine ⟨fun before x later split => ?_, serves.tour.ordered, fun set row member => ?_, rfl⟩
  · rw [split] at serves
    obtain ⟨-, here, rest⟩ := serves_append.mp serves
    refine ⟨here, fun none => ?_⟩
    rcases here.cases with ⟨still, -⟩ | ⟨moves, leads⟩ | ⟨moves, -⟩
    · rw [still] at none
      cases none
    · rw [leads] at rest
      refine rest.tour.exhausted ?_
      rw [moves] at none
      simpa [after] using none
    · rw [moves] at none
      cases none
  · rcases serves.tour.gapless member with there | ⟨-, impossible⟩
    · exact there
    · exact absurd impossible (Nat.not_lt_zero row)

end BatchedSave
