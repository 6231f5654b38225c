import BatchedSave.Proofs.Program.Runs

/-!
# Accounts of what a program does and how it ends

A property of traces and early ends accounts for an attempt if it holds of each of its runs. If the
property can be told of parts, going on after what went well, it accounts for attempts in sequence
as soon as it accounts for each of them.
-/
namespace BatchedSave

/-- How a result ends early, if it does. -/
def failure {ε α : Type} : Except ε α → Option ε
  | .ok _ => none
  | .error e => some e

/-- A property of traces and early ends that can be told of parts. -/
structure Composed {ε : Type} (Property : List Exchange → Option ε → Prop) : Prop where
  nothing : Property [] none
  append : ∀ {first second ended}, Property first none → Property second ended →
    Property (first ++ second) ended

namespace Program

variable {α β ε : Type} {Property : List Exchange → Option ε → Prop}

/-- The property holds of every run of the attempt. -/
def Accounts (Property : List Exchange → Option ε → Prop) (x : ExceptT ε Program α) : Prop :=
  ∀ trace result, x.run.Runs trace result → Property trace (failure result)

theorem Accounts.bind {x : ExceptT ε Program α} {f : α → ExceptT ε Program β}
    (first : Accounts Property x) (composed : Composed Property)
    (second : ∀ a, Accounts Property (f a)) : Accounts Property (x >>= f) := by
  intro trace result run
  rcases runs_attempt_bind.mp run with ⟨e, rfl, failed⟩ | ⟨before, after, a, rfl, done, rest⟩
  · exact first _ _ failed
  · exact composed.append (first _ _ done) (second a _ _ rest)

theorem accounts_pure (composed : Composed Property) (a : α) :
    Accounts Property (pure a : ExceptT ε Program α) := by
  intro trace result run
  obtain ⟨rfl, rfl⟩ := runs_attempt_pure.mp run
  exact composed.nothing

theorem accounts_throw {e : ε} (ends : Property [] (some e)) :
    Accounts Property (throw e : ExceptT ε Program α) := by
  intro trace result run
  obtain ⟨rfl, rfl⟩ := runs_throw.mp run
  exact ends

theorem accounts_request {r : Request} (holds : ∀ answer, Property [⟨r, answer⟩] none) :
    Accounts Property (liftM (request r) : ExceptT ε Program r.Answer) := by
  intro trace result run
  obtain ⟨answer, rfl, asked⟩ := runs_lift.mp run
  obtain rfl := runs_request_iff.mp asked
  exact holds answer

theorem Accounts.forM (composed : Composed Property) {f : α → ExceptT ε Program PUnit}
    (xs : List α) (each : ∀ x, Accounts Property (f x)) : Accounts Property (xs.forM f) := by
  induction xs with
  | nil => exact accounts_pure composed PUnit.unit
  | cons x xs ih =>
    rw [List.forM_eq_forM, List.forM_cons]
    exact (each x).bind composed fun _ => ih

theorem accounts_liftExcept {Property : List Exchange → Option Error → Prop}
    (composed : Composed Property) {x : Except Error α}
    (ends : ∀ e, x = .error e → Property [] (some e)) :
    Accounts Property (liftExcept x : Attempt α) := by
  intro trace result run
  obtain ⟨rfl, rfl⟩ := runs_liftExcept.mp run
  cases result with
  | ok a => exact composed.nothing
  | error e => exact ends e rfl

end Program

end BatchedSave
