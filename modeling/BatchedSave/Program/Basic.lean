import BatchedSave.Program.Request

/-!
# Programs of requests

A program either is done or makes a request and goes on with the answer. It is finite data, so
what it does under every possible behaviour of its surroundings can be told from the program
alone: `Runs` lists the exchanges of one run, `answerWith` runs it against given surroundings.
-/
namespace BatchedSave

inductive Program (α : Type) where
  | done (a : α)
  | ask (request : Request) (next : request.Answer → Program α)

/-- One request together with the answer it got. -/
structure Exchange where
  request : Request
  answer : request.Answer

namespace Program

def bind {α β : Type} : Program α → (α → Program β) → Program β
  | done a, f => f a
  | ask request next, f => ask request fun answer => (next answer).bind f

instance : Monad Program where
  pure := done
  bind := bind

/-- Makes one request. -/
def request (r : Request) : Program r.Answer :=
  ask r done

/-- Runs a program; `answer` plays the surroundings. -/
def answerWith {m : Type → Type} [Monad m] (answer : (r : Request) → m r.Answer) {α : Type} :
    Program α → m α
  | done a => pure a
  | ask r next => do (next (← answer r)).answerWith answer

/-- Runs of a program: with the answers in `trace`, the program makes the requests in `trace` and
ends with the result. -/
inductive Runs {α : Type} : Program α → List Exchange → α → Prop
  | done (a : α) : Runs (done a) [] a
  | ask {request : Request} {next : request.Answer → Program α} {trace : List Exchange} {a : α}
      (answer : request.Answer) (rest : Runs (next answer) trace a) :
      Runs (ask request next) (⟨request, answer⟩ :: trace) a

@[simp] theorem pure_eq {α : Type} (a : α) : (pure a : Program α) = done a := rfl

@[simp] theorem done_bind {α β : Type} (a : α) (f : α → Program β) : done a >>= f = f a := rfl

@[simp] theorem ask_bind {α β : Type} (r : Request) (next : r.Answer → Program α)
    (f : α → Program β) : ask r next >>= f = ask r fun answer => next answer >>= f := rfl

theorem bind_done {α : Type} (p : Program α) : p >>= done = p := by
  induction p with
  | done a => rfl
  | ask r next ih => simp [ih]

theorem bind_assoc {α β γ : Type} (p : Program α) (f : α → Program β) (g : β → Program γ) :
    p >>= f >>= g = p >>= fun a => f a >>= g := by
  induction p with
  | done a => rfl
  | ask r next ih => simp [ih]

instance : LawfulMonad Program :=
  LawfulMonad.mk' Program bind_done (fun _ _ => rfl) bind_assoc

/-- A run of two programs in sequence is a run of the first followed by a run of the second. -/
theorem runs_bind {α β : Type} {p : Program α} {f : α → Program β} {trace : List Exchange}
    {b : β} :
    (p >>= f).Runs trace b ↔
      ∃ before after a, trace = before ++ after ∧ p.Runs before a ∧ (f a).Runs after b := by
  constructor
  · induction p generalizing trace with
    | done a => exact fun h => ⟨[], trace, a, rfl, .done a, h⟩
    | ask r next ih =>
      intro h
      rw [ask_bind] at h
      cases h with
      | ask answer rest =>
        obtain ⟨before, after, a, rfl, hp, hf⟩ := ih answer rest
        exact ⟨_, after, a, rfl, .ask answer hp, hf⟩
  · rintro ⟨before, after, a, rfl, hp, hf⟩
    induction hp with
    | done a => exact hf
    | ask answer _ ih => exact .ask answer (ih hf)

end Program

/-- A program that may fail. -/
abbrev Attempt := ExceptT Error Program

end BatchedSave
