import BatchedSave.Proofs.Program.Runs

/-!
# Programs with checks

A program relies on much that it does not look at: that a list it takes from is not empty, that a
place lies within a text. `Checked` programs look and end in a `Lapse` where a program without
checks would go on with nonsense or report a broken rule. A program `Passes` a checked one if it is
the same program and none of the checks can fail, whatever the surroundings answer. The rules for
this follow the program, and in a sequence the second part has to pass only for what the first part
can end with.
-/
namespace BatchedSave

/-- What a program must not run into. -/
inductive Lapse where
  /-- An error that reports a broken rule of the program's own. -/
  | broken (e : Error)
  /-- A number is greater than it may be. -/
  | beyond (found bound : Nat)
  deriving DecidableEq, Repr

abbrev Checked := ExceptT Lapse Program

namespace Checked

def broken {α : Type} (e : Error) : Checked α :=
  throw (.broken e)

/-- Checks that a number is not greater than its bound. -/
def within (found bound : Nat) : Checked Unit :=
  if found ≤ bound then return () else throw (.beyond found bound)

/-- A part that may fail and has no checks. -/
def part {ε α : Type} (x : ExceptT ε Program α) : ExceptT ε Checked α :=
  ExceptT.mk (liftM x.run)

end Checked

namespace Program

variable {α β ε : Type}

/-- The checked program is this program, with checks that hold under all surroundings. -/
def Passes (p : Program α) (x : Checked α) : Prop :=
  x.run = Except.ok <$> p

theorem passes_pure (a : α) : (pure a : Program α).Passes (pure a) := rfl

theorem passes_lift (p : Program α) : p.Passes (liftM p) := rfl

/-- What comes second matters only for what the first part can end with. -/
theorem bind_congr_of_runs {p : Program α} {f g : α → Program β}
    (same : ∀ trace a, p.Runs trace a → f a = g a) : p >>= f = p >>= g := by
  induction p with
  | done a => exact same [] a (.done a)
  | ask r next ih =>
    rw [ask_bind, ask_bind]
    congr 1
    funext answer
    exact ih answer fun trace a run => same _ a (.ask answer run)

theorem Passes.bind {p : Program α} {x : Checked α} {f : α → Program β} {g : α → Checked β}
    (first : p.Passes x) (second : ∀ trace a, p.Runs trace a → (f a).Passes (g a)) :
    (p >>= f).Passes (x >>= g) := by
  unfold Passes at first second ⊢
  rw [ExceptT.run_bind, first, bind_map_left, map_bind]
  exact bind_congr_of_runs second

/-- A check that holds is passed over. -/
theorem Passes.within {p : Program α} {x : Checked α} {found bound : Nat} (fits : found ≤ bound)
    (rest : p.Passes x) : p.Passes (Checked.within found bound >>= fun _ => x) := by
  rw [Checked.within, if_pos fits, pure_bind]
  exact rest

theorem passes_part (p : ExceptT ε Program α) : p.run.Passes (Checked.part p).run := rfl

theorem Passes.attempt_bind {p : ExceptT ε Program α} {x : ExceptT ε Checked α}
    {f : α → ExceptT ε Program β} {g : α → ExceptT ε Checked β} (first : p.run.Passes x.run)
    (second : ∀ trace a, p.run.Runs trace (.ok a) → (f a).run.Passes (g a).run) :
    (p >>= f).run.Passes (x >>= g).run := by
  rw [ExceptT.run_bind, ExceptT.run_bind]
  refine first.bind fun trace outcome run => ?_
  cases outcome with
  | error e => exact passes_pure _
  | ok a => exact second trace a run

/-- A part that cannot fail but has checks. -/
theorem Passes.lift {p : Program α} {x : Checked α} (passes : p.Passes x) :
    (liftM p : ExceptT ε Program α).run.Passes (liftM x : ExceptT ε Checked α).run := by
  have lifted : (liftM p : ExceptT ε Program α).run = p >>= fun a => pure (Except.ok a) := rfl
  rw [lifted]
  exact passes.bind fun _ a _ => passes_pure _

theorem passes_forM {p : α → ExceptT ε Program PUnit} {x : α → ExceptT ε Checked PUnit}
    (each : ∀ a, (p a).run.Passes (x a).run) (as : List α) :
    (as.forM p).run.Passes (as.forM x).run := by
  induction as with
  | nil => exact passes_pure _
  | cons a as ih =>
    rw [List.forM_eq_forM, List.forM_eq_forM, List.forM_cons, List.forM_cons]
    exact (each a).attempt_bind fun _ _ _ => ih

theorem passes_foldlM {p : β → α → ExceptT ε Program β} {x : β → α → ExceptT ε Checked β}
    (each : ∀ b a, (p b a).run.Passes (x b a).run) (as : List α) (b : β) :
    (as.foldlM p b).run.Passes (as.foldlM x b).run := by
  induction as generalizing b with
  | nil => exact passes_pure _
  | cons a as ih =>
    rw [List.foldlM_cons, List.foldlM_cons]
    exact (each b a).attempt_bind fun _ b' _ => ih b'

end Program

end BatchedSave
