import BatchedSave.Proofs.Program.Runs

/-!
# The events of a trace

Metrics are told what happens while it goes on; `events` reads off a trace what they were told, in
order. Some events report a failure, one event reports that a command has been applied.
-/
namespace BatchedSave

namespace Metrics.Event

variable {Elapsed : Type}

/-- The event reports how a round trip failed. -/
def isFailure : Event Elapsed → Bool
  | conflict _ | violation | storeFailure | cancelled => true
  | _ => false

/-- The event reports that a command has been applied. -/
def isApplication : Event Elapsed → Bool
  | commandApplied .. => true
  | _ => false

/-- The rows reported at the end of a round trip. -/
def finished? : Event Elapsed → Option Nat
  | batchFinish _ rows _ => some rows
  | _ => none

/-- The round trip has begun. -/
def isStart : Event Elapsed → Bool
  | batchStart .. => true
  | _ => false

/-- The command that was applied, by its table and kind. -/
def applied? : Event Elapsed → Option (String × ChangeKind)
  | commandApplied table kind _ => some (table, kind)
  | _ => none

/-- The generated values reported with an applied command. -/
def generatedValues : Event Elapsed → Nat
  | commandApplied _ _ generated => generated
  | _ => 0

end Metrics.Event

def Exchange.event? : Exchange → Option Metrics.Notice
  | ⟨.record event, _⟩ => some event
  | _ => none

/-- The events that metrics were told of in a trace. -/
def events (trace : List Exchange) : List Metrics.Notice :=
  trace.filterMap Exchange.event?

@[simp] theorem events_nil : events [] = [] := rfl

@[simp] theorem events_append (before after : List Exchange) :
    events (before ++ after) = events before ++ events after :=
  List.filterMap_append

/-- A request that tells metrics of an event. -/
def Request.IsRecord (r : Request) : Prop :=
  ∃ event, r = .record event

theorem Exchange.event?_eq_none {x : Exchange} (other : ¬ x.request.IsRecord) :
    x.event? = none := by
  obtain ⟨request, answer⟩ := x
  cases request
  case record event => exact absurd ⟨event, rfl⟩ other
  all_goals rfl

theorem events_eq_nil {trace : List Exchange} (other : ∀ x ∈ trace, ¬ x.request.IsRecord) :
    events trace = [] :=
  List.filterMap_eq_nil_iff.mpr fun x member => x.event?_eq_none (other x member)

/-- A program that tells metrics nothing has no events in its runs. -/
theorem events_eq_nil_of_asks {α : Type} {p : Program α} {trace : List Exchange} {a : α}
    (asked : p.Asks fun r => ¬ r.IsRecord) (run : p.Runs trace a) : events trace = [] :=
  events_eq_nil (asked.of_mem run)

end BatchedSave
