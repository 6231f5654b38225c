import Mathlib.Data.List.Forall2
import BatchedSave.Proofs.RoundTrip.Trip

/-!
# The scope of a connection

A statement can be executed in three ways and two manners, and any of these opens a connection, has
one command executed and closes the connection again. A reader outlives the call that made it: it is
handed to someone who goes on calling it and drops it in the end (`ReaderUse`), and only then is
the connection closed. `Execution.Scoped` says how all of this can go, exchange by exchange, and
`execute_closes` that it always goes like that, whatever fails and wherever the caller gives up.
-/
namespace BatchedSave

/-! ### Holding a reader -/

/-- What someone does with a reader that has been handed over: calls it, looks at the width of its
row or at the settings of its connection, and goes on by the answer, until the reader is dropped. -/
inductive ReaderUse (α : Type) where
  | drop (a : α)
  | call (call : ReaderCall) (next : Option (Except Error call.Result) → ReaderUse α)
  | width (next : Nat → ReaderUse α)
  | settings (next : Settings → ReaderUse α)

/-- One thing that is done with a reader, with its answer. A call that is dropped has none. -/
inductive Turn where
  | called (call : ReaderCall) (answer : Option (Except Error call.Result))
  | width (columns : Nat)
  | settings (settings : Settings)

/-- The exchange passes the turn on as it is, and the turn has its answer. -/
inductive Turn.Forwarded : Manner → Turn → Exchange → Prop
  | waited (call : ReaderCall) (result : Except Error call.Result) :
    Forwarded .blocking (.called call (some result)) ⟨.store (.reader call), result⟩
  | suspended (call : ReaderCall) (answer : Option (Except Error call.Result)) :
    Forwarded .suspending (.called call answer) ⟨.await (.reader call), answer⟩
  | width (manner : Manner) (columns : Nat) :
    Forwarded manner (.width columns) ⟨.fieldCount, columns⟩
  | settings (manner : Manner) (settings : Settings) :
    Forwarded manner (.settings settings) ⟨.settings, settings⟩

namespace ReaderUse

variable {α : Type}

def program (manner : Manner) : ReaderUse α → Program α
  | drop a => pure a
  | call c next => do (next (← manner.read c)).program manner
  | width next => do (next (← Program.request .fieldCount)).program manner
  | settings next => do (next (← Program.request .settings)).program manner

/-- The turns of a use and what it comes to. -/
inductive Takes : ReaderUse α → List Turn → α → Prop
  | drop (a : α) : Takes (drop a) [] a
  | call {c : ReaderCall} {next : Option (Except Error c.Result) → ReaderUse α} {turns : List Turn}
      {a : α} (answer : Option (Except Error c.Result)) (rest : Takes (next answer) turns a) :
    Takes (call c next) (.called c answer :: turns) a
  | width {next : Nat → ReaderUse α} {turns : List Turn} {a : α} (columns : Nat)
      (rest : Takes (next columns) turns a) : Takes (width next) (.width columns :: turns) a
  | settings {next : Settings → ReaderUse α} {turns : List Turn} {a : α} (found : Settings)
      (rest : Takes (next found) turns a) : Takes (settings next) (.settings found :: turns) a

end ReaderUse

theorem Manner.read_runs {manner : Manner} {call : ReaderCall} {trace : List Exchange}
    {answer : Option (Except Error call.Result)} (run : (manner.read call).Runs trace answer) :
    ∃ x, trace = [x] ∧ Turn.Forwarded manner (.called call answer) x := by
  cases manner with
  | blocking =>
    obtain ⟨result, rfl, asked⟩ := Program.runs_map.mp run
    exact ⟨_, Program.runs_request_iff.mp asked, .waited call result⟩
  | suspending => exact ⟨_, Program.runs_request_iff.mp run, .suspended call answer⟩

/-- Every turn is passed on, in order, and nothing else is done. -/
theorem ReaderUse.program_runs {α : Type} {manner : Manner} {use : ReaderUse α}
    {trace : List Exchange} {a : α} (run : (use.program manner).Runs trace a) :
    ∃ turns, use.Takes turns a ∧ List.Forall₂ (Turn.Forwarded manner) turns trace := by
  induction use generalizing trace with
  | drop a =>
    obtain ⟨rfl, rfl⟩ := Program.runs_done_iff.mp run
    exact ⟨[], .drop _, .nil⟩
  | call c next ih =>
    obtain ⟨_, rest, answer, rfl, asked, going⟩ := Program.runs_bind.mp run
    obtain ⟨x, rfl, forwarded⟩ := Manner.read_runs asked
    obtain ⟨turns, takes, passed⟩ := ih answer going
    exact ⟨_, .call answer takes, .cons forwarded passed⟩
  | width next ih =>
    obtain ⟨columns, rest, rfl, going⟩ := Program.runs_request_bind.mp run
    obtain ⟨turns, takes, passed⟩ := ih columns going
    exact ⟨_, .width columns takes, .cons (.width manner columns) passed⟩
  | settings next ih =>
    obtain ⟨found, rest, rfl, going⟩ := Program.runs_request_bind.mp run
    obtain ⟨turns, takes, passed⟩ := ih found going
    exact ⟨_, .settings found takes, .cons (.settings manner found) passed⟩

/-! ### Executing a statement -/

/-- How a call on the store goes. It is waited for; or the token is looked at first, and the call is
not started, is dropped while it is pending, or is answered. -/
inductive Manner.Performed (origin : Origin) (call : StoreCall) :
    Manner → List Exchange → Except Error call.Result → Prop
  | waited (result : Except Error call.Result) :
    Performed origin call .blocking [⟨.store call, result⟩] result
  | prevented :
    Performed origin call .suspending [⟨.cancelled, true⟩] (.error (.cancelled origin))
  | dropped :
    Performed origin call .suspending [⟨.cancelled, false⟩, ⟨.await call, none⟩]
      (.error (.cancelled origin))
  | answered (result : Except Error call.Result) :
    Performed origin call .suspending [⟨.cancelled, false⟩, ⟨.await call, some result⟩] result

theorem Manner.perform_runs {manner : Manner} {origin : Origin} {call : StoreCall}
    {trace : List Exchange} {result : Except Error call.Result}
    (run : (manner.perform origin call).run.Runs trace result) :
    manner.Performed origin call trace result := by
  cases manner with
  | blocking =>
    obtain rfl := Program.runs_request_iff.mp run
    exact .waited result
  | suspending =>
    obtain ⟨cancelled, _, rfl, looked⟩ := Program.runs_request_bind.mp run
    cases cancelled with
    | true =>
      obtain ⟨rfl, rfl⟩ := Program.runs_done_iff.mp looked
      exact .prevented
    | false =>
      obtain ⟨answer, _, rfl, awaited⟩ := Program.runs_request_bind.mp looked
      cases answer with
      | none =>
        obtain ⟨rfl, rfl⟩ := Program.runs_done_iff.mp awaited
        exact .dropped
      | some answer =>
        obtain ⟨rfl, rfl⟩ := Program.runs_done_iff.mp awaited
        exact .answered result

/-- The ways to execute a statement. A reader is handed to someone who uses it. -/
inductive Execution : Type → Type 1
  | change : Execution Nat
  | scalar : Execution Value
  | reading {α : Type} (use : ReaderUse α) : Execution α

def Statement.execute {α : Type} (s : Statement) (manner : Manner) :
    Execution α → Program (Except Error α)
  | .change => s.change manner
  | .scalar => s.scalar manner
  | .reading use => s.reading manner (use.program manner)

namespace Execution

variable {α : Type}

/-- The call that has a command executed. -/
def call : Execution α → StoreCommand → StoreCall
  | change => .change
  | scalar => .scalar
  | reading _ => .query

/-- What is made of the answer to that call: it is the result, or a reader is used. -/
def proceed (manner : Manner) :
    (x : Execution α) → (command : StoreCommand) → (x.call command).Result → Attempt α
  | change, _, rows => pure rows
  | scalar, _, value => pure value
  | reading use, _, _ => liftM (use.program manner)

/-- The turns that are taken with the answer to that call, and the result. -/
inductive Yields : {α : Type} → (x : Execution α) → (command : StoreCommand) →
    (x.call command).Result → List Turn → α → Prop
  | change (command : StoreCommand) (rows : Nat) : Yields .change command rows [] rows
  | scalar (command : StoreCommand) (value : Value) : Yields .scalar command value [] value
  | reading {α : Type} {use : ReaderUse α} (command : StoreCommand) {turns : List Turn} {a : α}
      (takes : use.Takes turns a) : Yields (.reading use) command () turns a

/-- How a statement is executed. The connection does not open; the command, bound to the settings of
the open connection, is not executed; or it is, and a reader is used while the connection stays
open. Whichever it is, the connection is closed in the end. -/
inductive Scoped (x : Execution α) (manner : Manner) (s : Statement) :
    List Exchange → Except Error α → Prop
  | unopened {opening : List Exchange} {e : Error}
      (failed : manner.Performed .connection .connect opening (.error e)) :
    Scoped x manner s (opening ++ [⟨.close, ()⟩]) (.error e)
  | unexecuted {opening asking : List Exchange} {settings : Settings} {e : Error}
      (opened : manner.Performed .connection .connect opening (.ok ()))
      (failed : manner.Performed .store (x.call (s.bind settings)) asking (.error e)) :
    Scoped x manner s (opening ++ s.preparing settings ++ asking ++ [⟨.close, ()⟩]) (.error e)
  | executed {opening asking used : List Exchange} {settings : Settings}
      {answer : (x.call (s.bind settings)).Result} {turns : List Turn} {a : α}
      (opened : manner.Performed .connection .connect opening (.ok ()))
      (executed : manner.Performed .store (x.call (s.bind settings)) asking (.ok answer))
      (yields : x.Yields (s.bind settings) answer turns a)
      (passed : List.Forall₂ (Turn.Forwarded manner) turns used) :
    Scoped x manner s
      (opening ++ s.preparing settings ++ asking ++ used ++ [⟨.close, ()⟩]) (.ok a)

theorem proceed_runs {x : Execution α} {manner : Manner} {command : StoreCommand}
    {answer : (x.call command).Result} {trace : List Exchange} {result : Except Error α}
    (run : (x.proceed manner command answer).run.Runs trace result) :
    ∃ turns a, result = .ok a ∧ x.Yields command answer turns a ∧
      List.Forall₂ (Turn.Forwarded manner) turns trace := by
  cases x with
  | change =>
    obtain ⟨rfl, rfl⟩ := Program.runs_attempt_pure.mp run
    exact ⟨[], _, rfl, .change command _, .nil⟩
  | scalar =>
    obtain ⟨rfl, rfl⟩ := Program.runs_attempt_pure.mp run
    exact ⟨[], _, rfl, .scalar command _, .nil⟩
  | reading use =>
    obtain ⟨a, rfl, used⟩ := Program.runs_lift.mp run
    obtain ⟨turns, takes, passed⟩ := use.program_runs used
    exact ⟨turns, a, rfl, .reading command takes, passed⟩

end Execution

namespace Statement

variable {α : Type} {x : Execution α} {manner : Manner} {s : Statement} {trace : List Exchange}
  {result : Except Error α}

/-- The three ways are one: they differ in the call and in what is made of its answer. -/
theorem execute_eq (s : Statement) (manner : Manner) (x : Execution α) :
    s.execute manner x = manner.connected (do
      let command ← s.command
      let answer ← manner.perform .store (x.call command)
      x.proceed manner command answer) := by
  cases x with
  | change => simp only [execute, change, Execution.call, Execution.proceed, bind_pure]
  | scalar => simp only [execute, scalar, Execution.call, Execution.proceed, bind_pure]
  | reading use => rfl

theorem execute_scoped (run : (s.execute manner x).Runs trace result) :
    x.Scoped manner s trace result := by
  rw [execute_eq] at run
  obtain ⟨_, rfl, ran⟩ := Manner.connected_runs run
  rcases Program.runs_attempt_bind.mp ran with ⟨e, rfl, failed⟩ | ⟨opening, _, _, rfl, opened, rest⟩
  · exact .unopened (Manner.perform_runs failed)
  rcases Program.runs_attempt_bind.mp rest with ⟨_, -, failed⟩ | ⟨_, _, _, rfl, bound, rest⟩
  · obtain ⟨_, -, ⟨⟩⟩ := command_runs failed
  obtain ⟨settings, rfl, same⟩ := command_runs bound
  cases same
  have opened := Manner.perform_runs opened
  rcases Program.runs_attempt_bind.mp rest with ⟨e, rfl, failed⟩ | ⟨asking, _, _, rfl, asked, rest⟩
  · rw [← List.append_assoc]
    exact .unexecuted opened (Manner.perform_runs failed)
  obtain ⟨turns, a, rfl, yields, passed⟩ := Execution.proceed_runs rest
  simp only [← List.append_assoc]
  exact .executed opened (Manner.perform_runs asked) yields passed

end Statement

/-! ### What is done with the connection -/

/-- The operations of a connection itself: it is asked to open, to execute a command, to close. -/
inductive ConnectionUse where
  | started (call : StoreCall)
  | closed
  deriving DecidableEq

def Exchange.connectionUse? : Exchange → Option ConnectionUse
  | ⟨.store (.reader _), _⟩ | ⟨.await (.reader _), _⟩ => none
  | ⟨.store call, _⟩ | ⟨.await call, _⟩ => some (.started call)
  | ⟨.close, _⟩ => some .closed
  | _ => none

/-- What is done with the connection in a trace, in order. A call that is not started is left
out. -/
def connectionUses (trace : List Exchange) : List ConnectionUse :=
  trace.filterMap (·.connectionUse?)

@[simp] theorem connectionUses_append (before after : List Exchange) :
    connectionUses (before ++ after) = connectionUses before ++ connectionUses after :=
  List.filterMap_append

theorem Statement.connectionUses_preparing (s : Statement) (settings : Settings) :
    connectionUses (s.preparing settings) = [] := rfl

theorem Turn.connectionUses_forwarded {manner : Manner} {turns : List Turn} {used : List Exchange}
    (passed : List.Forall₂ (Turn.Forwarded manner) turns used) : connectionUses used = [] := by
  induction passed with
  | nil => rfl
  | cons forwarded _ ih =>
    rw [connectionUses, List.filterMap_cons_none]
    · exact ih
    · cases forwarded <;> rfl

/-- A call of the connection is started once, or not at all and then fails. -/
theorem Manner.Performed.connectionUses {manner : Manner} {origin : Origin} {call : StoreCall}
    {trace : List Exchange} {result : Except Error call.Result} (own : ∀ c, call ≠ .reader c)
    (performed : manner.Performed origin call trace result) :
    (connectionUses trace = [] ∧ ∃ e, result = .error e) ∨
      connectionUses trace = [.started call] := by
  cases performed with
  | prevented => exact .inl ⟨rfl, _, rfl⟩
  | waited | dropped | answered =>
    right
    cases call with
    | reader c => exact absurd rfl (own c)
    | _ => rfl

theorem Execution.call_own {α : Type} (x : Execution α) (command : StoreCommand) (c : ReaderCall) :
    x.call command ≠ .reader c := by
  cases x <;> exact StoreCall.noConfusion

/-- The connection is asked to open and to execute at most once each, in this order, and to close
once, behind both. -/
theorem Execution.Scoped.connectionUses {α : Type} {x : Execution α} {manner : Manner}
    {s : Statement} {trace : List Exchange} {result : Except Error α}
    (course : x.Scoped manner s trace result) :
    ∃ settings started, connectionUses trace = started ++ [.closed] ∧
      started <+: [.started .connect, .started (x.call (s.bind settings))] := by
  have connecting : ∀ c, StoreCall.connect ≠ .reader c := fun _ => StoreCall.noConfusion
  cases course with
  | unopened failed =>
    refine ⟨{}, _, connectionUses_append _ _, ?_⟩
    rcases failed.connectionUses connecting with ⟨none, -⟩ | opened
    · simp [none]
    · simp [opened]
  | @unexecuted _ _ settings _ opened failed =>
    refine ⟨settings, _, connectionUses_append _ _, ?_⟩
    rcases opened.connectionUses connecting with ⟨-, _, ⟨⟩⟩ | opened
    rcases failed.connectionUses (x.call_own _) with ⟨none, -⟩ | asked
    · simp [opened, none, s.connectionUses_preparing]
    · simp [opened, asked, s.connectionUses_preparing]
  | @executed _ _ _ settings _ _ _ opened executed _ passed =>
    refine ⟨settings, _, connectionUses_append _ _, ?_⟩
    rcases opened.connectionUses connecting with ⟨-, _, ⟨⟩⟩ | opened
    rcases executed.connectionUses (x.call_own _) with ⟨-, _, ⟨⟩⟩ | asked
    simp [opened, asked, s.connectionUses_preparing, Turn.connectionUses_forwarded passed]

/-- A suspending call looks at the token first. If the caller has given up, that is all. -/
theorem Manner.Performed.looks {origin : Origin} {call : StoreCall} {trace : List Exchange}
    {result : Except Error call.Result}
    (performed : Manner.suspending.Performed origin call trace result) :
    ∃ (givenUp : Bool) (rest : List Exchange), trace = ⟨.cancelled, givenUp⟩ :: rest ∧
      (givenUp = true → rest = [] ∧ result = .error (.cancelled origin)) := by
  cases performed with
  | prevented => exact ⟨true, [], rfl, fun _ => ⟨rfl, rfl⟩⟩
  | dropped | answered => exact ⟨false, _, rfl, nofun⟩

theorem Execution.Scoped.looks {α : Type} {x : Execution α} {s : Statement}
    {trace : List Exchange} {result : Except Error α}
    (course : x.Scoped .suspending s trace result) :
    ∃ (givenUp : Bool) (rest : List Exchange), trace = ⟨.cancelled, givenUp⟩ :: rest ∧
      (givenUp = true → rest = [⟨.close, ()⟩] ∧ result = .error (.cancelled .connection)) := by
  cases course with
  | unopened failed =>
    obtain ⟨givenUp, rest, rfl, prevented⟩ := failed.looks
    refine ⟨givenUp, _, rfl, fun up => ?_⟩
    obtain ⟨rfl, same⟩ := prevented up
    cases same
    exact ⟨rfl, rfl⟩
  | unexecuted opened | executed opened =>
    obtain ⟨givenUp, rest, rfl, prevented⟩ := opened.looks
    simp only [List.append_assoc, List.cons_append]
    exact ⟨givenUp, _, rfl, fun up => nomatch (prevented up).2⟩

/-- However a statement is executed, whatever fails and wherever the caller gives up, its connection
is asked to open at most once, to execute at most once, after it has opened and with the settings
that were read then, and it is closed once, in the very end. A reader that was handed over is passed
every call before that. If the caller has given up beforehand, nothing but the closing is done. -/
theorem Statement.execute_closes {α : Type} {x : Execution α} {manner : Manner} {s : Statement}
    {trace : List Exchange} {result : Except Error α}
    (run : (s.execute manner x).Runs trace result) :
    x.Scoped manner s trace result ∧
      (∃ settings started, connectionUses trace = started ++ [.closed] ∧
        started <+: [.started .connect, .started (x.call (s.bind settings))]) ∧
      (manner = .suspending → ∃ (givenUp : Bool) (rest : List Exchange),
        trace = ⟨.cancelled, givenUp⟩ :: rest ∧
          (givenUp = true → rest = [⟨.close, ()⟩] ∧ result = .error (.cancelled .connection))) := by
  have course := execute_scoped run
  refine ⟨course, course.connectionUses, ?_⟩
  rintro rfl
  exact course.looks

/-- A reader fails while it is held, and the one who holds it looks at the settings and drops it. -/
theorem Statement.execute_closes_behind_a_reader :
    ∃ (use : ReaderUse (Option Nat)) (trace : List Exchange) (result : Except Error (Option Nat)),
      (({} : Statement).execute .suspending (.reading use)).Runs trace result ∧
      result = .ok (some 5) ∧ (Execution.reading use).Scoped .suspending {} trace result ∧
      connectionUses trace =
        [.started .connect, .started (.query ⟨"", [], none, some 5⟩), .closed] := by
  let use : ReaderUse (Option Nat) :=
    .call .nextRow fun _ => .settings fun settings => .drop settings.timeout
  let settings : Settings := { timeout := some 5 }
  have run : (({} : Statement).execute .suspending (.reading use)).Runs
      [⟨.cancelled, false⟩, ⟨.await .connect, some (.ok ())⟩, ⟨.settings, settings⟩,
       ⟨.log (.executingCommand false (({} : Statement).bind settings)), ()⟩,
       ⟨.cancelled, false⟩, ⟨.await (.query (({} : Statement).bind settings)), some (.ok ())⟩,
       ⟨.await (.reader .nextRow), some (.error (.plain .internal .store "gone"))⟩,
       ⟨.settings, settings⟩, ⟨.close, ()⟩] (.ok (some 5)) :=
    .ask _ (.ask _ (.ask _ (.ask _ (.ask _ (.ask _ (.ask _ (.ask _ (.ask _ (.done _)))))))))
  exact ⟨use, _, _, run, rfl, (execute_closes run).1, rfl⟩

end BatchedSave
