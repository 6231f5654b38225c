import BatchedSave.Proofs.Program.Surroundings

/-!
# Suspending without being cancelled

`waiting` turns a program that suspends into the program that waits: nobody has given up, and a call
that could be dropped is waited for. It commutes with sequencing, so to show that the two manners of
a program are `Alike` it is enough to show it of their parts. In surroundings that are `Patient`, a
program and its waiting form behave alike as well: the same result, the same surroundings
afterwards, the same exchanges but for the looks at the token.
-/
namespace BatchedSave

/-- A request that has nothing to do with cancellation. -/
def Request.Steadfast : Request → Prop
  | .await _ | .cancelled => False
  | _ => True

namespace Program

variable {α β ε : Type}

/-- The program with every look at the token answered no and every call waited for. -/
def waiting : Program α → Program α
  | done a => done a
  | ask .cancelled next => (next false).waiting
  | ask (.await call) next => ask (.store call) fun result => (next (some result)).waiting
  | ask r next => ask r fun answer => (next answer).waiting

theorem waiting_bind (p : Program α) (f : α → Program β) :
    (p >>= f).waiting = p.waiting >>= fun a => (f a).waiting := by
  induction p with
  | done a => rfl
  | ask r next ih => cases r <;> simp only [ask_bind, waiting, ih]

/-- A program that never suspends waits already. -/
theorem waiting_eq_self {p : Program α} (asked : p.Asks Request.Steadfast) : p.waiting = p := by
  induction p with
  | done a => rfl
  | ask r next ih =>
    obtain ⟨steadfast, rest⟩ := asked
    cases r
    case await => exact steadfast.elim
    case cancelled => exact steadfast.elim
    all_goals
      simp only [waiting]
      congr 1
      funext answer
      exact ih answer (rest answer)

/-- A program that waits has nothing to do with cancellation. -/
theorem asks_waiting (p : Program α) : p.waiting.Asks Request.Steadfast := by
  induction p with
  | done a => trivial
  | ask r next ih =>
    cases r with
    | cancelled => exact ih false
    | await call => exact ⟨trivial, fun result => ih (some result)⟩
    | _ => exact ⟨trivial, fun answer => ih answer⟩

/-! ### Two manners of a program -/

/-- The suspending manner of a program is the blocking one as long as nobody gives up. -/
def Alike (p : Manner → Program α) : Prop :=
  (p .suspending).waiting = p .blocking

theorem alike_of_steadfast {p : Program α} (asked : p.Asks Request.Steadfast) :
    Alike fun _ => p :=
  waiting_eq_self asked

theorem Alike.bind {p : Manner → Program α} {f : Manner → α → Program β} (first : Alike p)
    (second : ∀ a, Alike fun manner => f manner a) : Alike fun manner => p manner >>= f manner := by
  unfold Alike at *
  rw [waiting_bind, first]
  exact bind_congr second

theorem Alike.attempt_bind {x : Manner → ExceptT ε Program α}
    {f : Manner → α → ExceptT ε Program β} (first : Alike fun manner => (x manner).run)
    (second : ∀ a, Alike fun manner => (f manner a).run) :
    Alike fun manner => (x manner >>= f manner).run := by
  simp only [ExceptT.run_bind]
  refine first.bind fun outcome => ?_
  cases outcome with
  | error e => rfl
  | ok a => exact second a

theorem Alike.map {p : Manner → Program α} (f : α → β) (alike : Alike p) :
    Alike fun manner => f <$> p manner := by
  simp only [← bind_pure_comp]
  exact alike.bind fun _ => rfl

theorem alike_perform (origin : Origin) (call : StoreCall) :
    Alike fun manner => (manner.perform origin call).run :=
  rfl

end Program

/-! ### Surroundings in which nobody gives up -/

/-- Nobody gives up, and a call that may be dropped is answered like one that is waited for. -/
structure Surroundings.Patient {σ : Type} (A : Surroundings σ) : Prop where
  looks : ∀ s, A .cancelled s = (false, s)
  awaits : ∀ call s, A (.await call) s = (some (A (.store call) s).1, (A (.store call) s).2)

theorem Surroundings.scripted_patient (dialect : Dialect) : (scripted dialect).Patient where
  looks _ := rfl
  awaits _ _ := rfl

/-- An exchange as the waiting program makes it; it does not look at the token. -/
def Exchange.waited? : Exchange → Option Exchange
  | ⟨.cancelled, _⟩ => none
  | ⟨.await call, answer⟩ => answer.map fun result => ⟨.store call, result⟩
  | x => some x

/-- Patient surroundings cannot tell a program from its waiting form. -/
theorem Program.play_waiting {σ α : Type} {A : Surroundings σ} (patient : A.Patient)
    (p : Program α) (s : σ) :
    p.waiting.play A s =
      { p.play A s with journal := (p.play A s).journal.filterMap Exchange.waited? } := by
  induction p generalizing s with
  | done a => rfl
  | ask r next ih =>
    cases r
    case cancelled =>
      have looked := patient.looks s
      simp only [waiting, play, looked, ih, List.filterMap_cons, Exchange.waited?]
    case await call =>
      -- the waiting program asks for the call itself and gets the same answer
      have awaited := patient.awaits call s
      simp only [waiting, play, awaited, ih, List.filterMap_cons, Exchange.waited?]
      rfl
    all_goals
      simp only [waiting, play, ih, List.filterMap_cons, Exchange.waited?]

end BatchedSave
