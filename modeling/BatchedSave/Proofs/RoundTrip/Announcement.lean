import BatchedSave.Proofs.RoundTrip.Trip

/-!
# What a round trip announces

A round trip begins its span of metrics with the number of commands it carries and the number of
parameters they bind. `starts` reads these announcements off a trace. Nothing else in a round trip
announces one, so that `execute_starts` tells all of them: one for each round trip whose statement
can be made.
-/
namespace BatchedSave

/-- The commands and parameters announced at the start of a round trip. -/
def Exchange.start? : Exchange → Option (Nat × Nat)
  | ⟨.record (.batchStart commands parameters), _⟩ => some (commands, parameters)
  | _ => none

/-- The round trips that a trace announces. -/
def starts (trace : List Exchange) : List (Nat × Nat) :=
  trace.filterMap Exchange.start?

@[simp] theorem starts_nil : starts [] = [] := rfl

@[simp] theorem starts_append (before after : List Exchange) :
    starts (before ++ after) = starts before ++ starts after :=
  List.filterMap_append

/-- A request that announces a round trip. -/
def Request.IsStart (r : Request) : Prop :=
  ∃ commands parameters, r = .record (.batchStart commands parameters)

theorem Exchange.start?_eq_none {x : Exchange} (other : ¬ x.request.IsStart) :
    x.start? = none := by
  obtain ⟨request, answer⟩ := x
  cases request with
  | record event =>
    cases event with
    | batchStart commands parameters => exact absurd ⟨commands, parameters, rfl⟩ other
    | _ => rfl
  | _ => rfl

variable {manner : Manner} {trace : List Exchange}

theorem starts_eq_nil (other : ∀ x ∈ trace, ¬ x.request.IsStart) : starts trace = [] :=
  List.filterMap_eq_nil_iff.mpr fun x member => x.start?_eq_none (other x member)

theorem starts_of_dialect (asked : ∀ x ∈ trace, x.request.OfDialect) : starts trace = [] := by
  refine starts_eq_nil fun x member => ?_
  have here := asked x member
  rintro ⟨_, _, same⟩
  rw [same] at here
  exact here

theorem starts_perform {origin : Origin} {call : StoreCall} {result : Except Error call.Result}
    (run : (manner.perform origin call).run.Runs trace result) : starts trace = [] := by
  rcases Program.runs_perform run with rfl | rfl | ⟨-, rfl | rfl⟩ <;> rfl

theorem Reconciliation.unannounced_account : Account manner fun trace _ => starts trace = [] where
  nothing := starts_nil
  append here there := by rw [starts_append, here, there, List.append_nil]
  called _ _ _ run := starts_perform run
  counted _ := rfl
  effect x isEffect := by
    refine starts_eq_nil (List.forall_mem_singleton.mpr ?_)
    rintro ⟨_, _, same⟩
    rw [same] at isEffect
    exact isEffect
  rejected _ := rfl

theorem Trip.starts_eq_nil {statement : Statement} {commands : List Command} {r : Reconciliation}
    {read : Except Error Unit} (trip : Trip manner statement commands trace r read) :
    starts trace = [] := by
  have closed : starts [⟨.close, ()⟩] = [] := rfl
  have prepared (settings : Settings) : starts (statement.preparing settings) = [] := rfl
  cases trip with
  | unopened failed => simp [starts_perform failed, closed]
  | unexecuted opened failed =>
    simp [starts_perform opened, prepared, starts_perform failed, closed]
  | read opened executed walked =>
    simp [starts_perform opened, prepared, starts_perform executed,
      Reconciliation.unannounced_account.walk walked, closed]

theorem Reconciliation.Concluded.starts_eq_nil {r : Reconciliation} {read : Except Error Unit}
    {result : Except (Abort Error) Executed} (concluded : r.Concluded read trace result) :
    starts trace = [] := by
  cases concluded with
  | executed => rfl
  | outOfRange => rfl
  | failed e => unfold reports; split <;> rfl

/-! ### The dialect is only asked for text -/

theorem Script.closing_ofDialect {s : Script} {footer : String}
    (run : s.closing.Runs trace footer) : ∀ x ∈ trace, x.request.OfDialect := by
  unfold closing at run
  split at run
  · obtain ⟨rfl, -⟩ := Program.runs_done_iff.mp run
    simp
  · obtain rfl := Program.runs_request_iff.mp run
    exact List.forall_mem_singleton.mpr trivial

theorem Script.Rendered.ofDialect {s after : Script} {commands : List Command}
    {result : Except Error String} (rendered : s.Rendered commands trace after result) :
    ∀ x ∈ trace, x.request.OfDialect := by
  cases rendered with
  | complete => simp
  | failed fragments => exact fragments.ofDialect
  | extended _ fragments closed =>
    exact List.forall_mem_append.mpr ⟨fragments.ofDialect, closing_ofDialect closed⟩

namespace Batch

theorem statement_ofDialect {b after : Batch} {result : Except Error Statement}
    (run : b.statement.Runs trace (after, result)) : ∀ x ∈ trace, x.request.OfDialect := by
  obtain ⟨_, _, ⟨_, _⟩, rfl, finalized, done⟩ := Program.runs_bind.mp run
  obtain ⟨rfl, -⟩ := Program.runs_done_iff.mp done
  rw [List.append_nil]
  rcases finalize_runs finalized with ⟨-, rfl, -, -⟩ | ⟨-, _, -, rendered⟩
  · simp
  · exact rendered.ofDialect

/-- A batch announces its commands and its count of parameters once, unless it is empty or its
statement cannot be made; then it announces nothing. -/
theorem execute_starts {b : Batch} {result : Except (Abort Error) Executed}
    (run : (b.execute manner).Runs trace result) :
    (starts trace = [] ∧
      (b.commands = [] ∨ ∃ after e, b.statement.Runs trace (after, .error e))) ∨
    (b.commands ≠ [] ∧ starts trace = [(b.commands.length, b.parameterCount)]) := by
  by_cases empty : b.commands = []
  · rw [execute, if_pos (by simpa using empty)] at run
    obtain ⟨rfl, -⟩ := Program.runs_done_iff.mp run
    exact .inl ⟨rfl, .inl empty⟩
  cases execute_dispatches empty run with
  | @unwritten _ after e failed =>
    exact .inl ⟨starts_of_dialect (statement_ofDialect failed), .inr ⟨after, e, failed⟩⟩
  | sent written trip concluded =>
    have begun (commands parameters : Nat) :
        starts [⟨.record (.batchStart commands parameters), ()⟩] = [(commands, parameters)] := rfl
    have finished (commands rows : Nat) :
        starts [⟨.record (.batchFinish commands rows ()), ()⟩] = [] := rfl
    refine .inr ⟨empty, ?_⟩
    simp only [starts_append, starts_of_dialect (statement_ofDialect written), begun,
      trip.starts_eq_nil, concluded.starts_eq_nil, finished, List.nil_append, List.append_nil]

end Batch

end BatchedSave
