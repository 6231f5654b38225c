import BatchedSave.Proofs.Program.Runs

/-!
# Looking at the token before every call

A suspending program looks at the token right before each of its calls. `Moment` cuts a trace where
the caller gives up: the looks before it find nobody giving up, those behind it do. Since a look and
the start of its call are one step, a trace whose calls are all guarded has none behind that moment.
-/
namespace BatchedSave

/-- The request is a call on the store. -/
def Request.isCall : Request → Bool
  | .store _ | .await _ => true
  | _ => false

/-- The calls of a trace, in order. -/
def calls (trace : List Exchange) : List Exchange :=
  trace.filter (·.request.isCall)

@[simp] theorem calls_nil : calls [] = [] := rfl

@[simp] theorem calls_append (before after : List Exchange) :
    calls (before ++ after) = calls before ++ calls after :=
  List.filter_append _ _

theorem calls_eq_nil_iff {trace : List Exchange} :
    calls trace = [] ↔ ∀ x ∈ trace, x.request.isCall = false := by
  simp [calls]

def lastCall (trace : List Exchange) : Option Exchange :=
  (calls trace).getLast?

theorem lastCall_append (first : List Exchange) {second : List Exchange} {x : Exchange}
    (last : lastCall second = some x) : lastCall (first ++ second) = some x := by
  rw [lastCall, calls_append, List.getLast?_append, ← lastCall, last]
  rfl

theorem lastCall_append_quiet {first second : List Exchange} (quiet : calls second = []) :
    lastCall (first ++ second) = lastCall first := by
  rw [lastCall, calls_append, quiet, List.append_nil, lastCall]

/-- Every call of the trace is one that can be dropped, and is made right after a look at the token
that found nobody giving up. -/
inductive Guarded : List Exchange → Prop
  | nil : Guarded []
  | call {call : StoreCall} {rest : List Exchange} (answer : Option (Except Error call.Result))
      (more : Guarded rest) : Guarded (⟨.cancelled, false⟩ :: ⟨.await call, answer⟩ :: rest)
  | other {x : Exchange} {rest : List Exchange} (other : x.request.isCall = false)
      (more : Guarded rest) : Guarded (x :: rest)

theorem guarded_of_calls_eq_nil {trace : List Exchange} (none : calls trace = []) :
    Guarded trace := by
  induction trace with
  | nil => exact .nil
  | cons x rest ih =>
    obtain ⟨other, others⟩ := List.forall_mem_cons.mp (calls_eq_nil_iff.mp none)
    exact .other other (ih (calls_eq_nil_iff.mpr others))

theorem Guarded.append {first second : List Exchange} (here : Guarded first)
    (there : Guarded second) : Guarded (first ++ second) := by
  induction here with
  | nil => exact there
  | call answer _ ih => exact .call answer ih
  | other other _ ih => exact .other other ih

theorem guarded_perform {origin : Origin} {call : StoreCall} {trace : List Exchange}
    {result : Except Error call.Result}
    (run : (Manner.suspending.perform origin call).run.Runs trace result) : Guarded trace := by
  obtain ⟨cancelled, rest, rfl, looked⟩ := Program.runs_request_bind.mp run
  cases cancelled with
  | true =>
    obtain ⟨rfl, -⟩ := Program.runs_done_iff.mp looked
    exact .other rfl .nil
  | false =>
    obtain ⟨answer, rest, rfl, awaited⟩ := Program.runs_request_bind.mp looked
    have ended : rest = [] := by
      cases answer with
      | none => exact (Program.runs_done_iff.mp awaited).1
      | some result => exact (Program.runs_done_iff.mp awaited).1
    rw [ended]
    exact .call answer .nil

/-- A suspending call that comes back with an answer is awaited right after a look at the token. -/
theorem perform_awaits {origin : Origin} {call : StoreCall} {trace : List Exchange}
    {answer : call.Result}
    (run : (Manner.suspending.perform origin call).run.Runs trace (.ok answer)) :
    trace = [⟨.cancelled, false⟩, ⟨.await call, some (.ok answer)⟩] := by
  have guarded := guarded_perform run
  rcases Program.runs_perform run with rfl | rfl | ⟨failed, -⟩
  · cases guarded with | other waits => cases waits
  · rfl
  · cases failed

end BatchedSave
