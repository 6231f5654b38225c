import BatchedSave.Dialect
import BatchedSave.Program.ScriptedStore
import BatchedSave.Proofs.Program.Runs

/-!
# Playing a program

Surroundings that keep a state of their own answer every request, so they lead a program to exactly
one result. `play` is that one run together with its exchanges. It is the run the interpreter
`answerWith` makes, and it is a run in the sense of `Runs`.
-/
namespace BatchedSave

abbrev Surroundings (σ : Type) := (r : Request) → StateM σ r.Answer

/-- A dialect and a scripted store; nobody gives up, and limits that are consulted admit
everything. -/
def Surroundings.scripted (dialect : Dialect) : Surroundings ScriptedStore
  | .header => return dialect.header
  | .footer => return dialect.footer
  | .fragment c => return dialect.fragment c
  | .mayAdd .. => return true
  | .accepts _ => return .ok true
  | .store call => fun store => store.serve call
  | .await call => fun store =>
    let served := store.serve call
    (some served.1, served.2)
  | .cancelled => return false
  | .settings => return {}
  | .fieldCount => fun store => (store.cursor.fieldCount, store)
  | .close | .writeBack .. | .pull _ | .record _ | .log _ => return ()

/-- The surroundings `A` with a caller who gives up after so many looks at the token. -/
def Surroundings.givingUp {σ : Type} (A : Surroundings σ) : Surroundings (Nat × σ)
  | .cancelled, (looks, s) => (looks == 0, looks - 1, s)
  | r, (looks, s) =>
    let told := A r s
    (told.1, looks, told.2)

/-- An insert whose key the store generates. -/
def Command.identityInsert (entry : Nat) : Command where
  table := "users"
  schema := none
  kind := .insert
  entry
  columns := [⟨"id", ⟨"INTEGER", .int64⟩, .keyGenerated, .null, .null, false, none, none⟩]

/-- An insert of a name under a key that the store generates. -/
def Command.namedInsert (name : String) : Command where
  table := "users"
  schema := none
  kind := .insert
  entry := 0
  columns := [⟨"id", ⟨"INTEGER", .int64⟩, .keyGenerated, .null, .null, false, none, none⟩,
    ⟨"name", ⟨"TEXT", .string⟩, .written, .text name, .null, false, some "p0", none⟩]

/-- A delete of one row by its key. -/
def Command.keyDelete (entry : Nat) : Command where
  table := "users"
  schema := none
  kind := .delete
  entry
  columns := [⟨"id", ⟨"INTEGER", .int64⟩, .keyCondition, .int (.ofNat entry), .null, false,
    some (NameSupply.name entry), none⟩]

/-- What came of playing a program. -/
structure Played (σ α : Type) where
  result : α
  state : σ
  journal : List Exchange

namespace Program

variable {σ α β : Type} (A : Surroundings σ)

def play : Program α → σ → Played σ α
  | done a, s => ⟨a, s, []⟩
  | ask r next, s =>
    let told := A r s
    let rest := (next told.1).play told.2
    { rest with journal := ⟨r, told.1⟩ :: rest.journal }

theorem answerWith_eq_play (p : Program α) (s : σ) :
    p.answerWith A s = ((p.play A s).result, (p.play A s).state) := by
  induction p generalizing s with
  | done a => rfl
  | ask r next ih => exact ih (A r s).1 (A r s).2

theorem runs_play (p : Program α) (s : σ) : p.Runs (p.play A s).journal (p.play A s).result := by
  induction p generalizing s with
  | done a => exact .done a
  | ask r next ih => exact .ask (A r s).1 (ih (A r s).1 (A r s).2)

theorem play_bind (p : Program α) (f : α → Program β) (s : σ) :
    (p >>= f).play A s =
      let first := p.play A s
      let rest := (f first.result).play A first.state
      { rest with journal := first.journal ++ rest.journal } := by
  induction p generalizing s with
  | done a => rfl
  | ask r next ih => simp only [ask_bind, play, ih, List.cons_append]

end Program

end BatchedSave
