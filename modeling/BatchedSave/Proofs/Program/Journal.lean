import BatchedSave.Proofs.Program.Runs

/-!
# What a trace tells

Readings of a run's exchanges: the values written back to tracked entries and the values a reader
delivered, each in the order in which it happened.
-/
namespace BatchedSave

/-- A generated value on its way back: the entry, the column's name and the value. -/
abbrev WriteBack := Nat × String × Value

namespace Exchange

def writeBack? : Exchange → Option WriteBack
  | ⟨.writeBack entry column value, _⟩ => some (entry, column, value)
  | _ => none

/-- The value that a call for one delivered, with its ordinal. -/
def delivery? : Exchange → Option (Value × Nat)
  | ⟨.store (.reader (.value ordinal)), .ok value⟩ => some (value, ordinal)
  | ⟨.await (.reader (.value ordinal)), some (.ok value)⟩ => some (value, ordinal)
  | _ => none

/-- The error of its own with which a call came back. -/
def error? : Exchange → Option Error
  | ⟨.store _, .error e⟩ => some e
  | ⟨.await _, some (.error e)⟩ => some e
  | _ => none

end Exchange

/-- The values a trace writes back. -/
def writeBacks (trace : List Exchange) : List WriteBack :=
  trace.filterMap Exchange.writeBack?

/-- The values a reader delivers in a trace, each with the ordinal it was asked for. -/
def deliveries (trace : List Exchange) : List (Value × Nat) :=
  trace.filterMap Exchange.delivery?

@[simp] theorem writeBacks_append (before after : List Exchange) :
    writeBacks (before ++ after) = writeBacks before ++ writeBacks after :=
  List.filterMap_append

@[simp] theorem deliveries_append (before after : List Exchange) :
    deliveries (before ++ after) = deliveries before ++ deliveries after :=
  List.filterMap_append

@[simp] theorem writeBacks_nil : writeBacks [] = [] := rfl

@[simp] theorem deliveries_nil : deliveries [] = [] := rfl

/-- A request that gives a value back to its entry. -/
def Request.IsWriteBack (r : Request) : Prop :=
  ∃ entry column value, r = .writeBack entry column value

theorem Exchange.writeBack?_eq_none {x : Exchange} (other : ¬ x.request.IsWriteBack) :
    x.writeBack? = none := by
  obtain ⟨request, answer⟩ := x
  cases request
  case writeBack entry column value => exact absurd ⟨entry, column, value, rfl⟩ other
  all_goals rfl

/-- A program that asks for no write-back has none in its runs. -/
theorem writeBacks_eq_nil {α : Type} {p : Program α} {trace : List Exchange} {a : α}
    (asked : p.Asks fun r => ¬ r.IsWriteBack) (run : p.Runs trace a) : writeBacks trace = [] :=
  asked.filterMap_eq_nil (fun x other => x.writeBack?_eq_none other) run

/-- A call that asks for no value delivers none. -/
theorem deliveries_call {manner : Manner} {origin : Origin} {call : StoreCall}
    {trace : List Exchange} {result : Except Error call.Result}
    (other : ∀ ordinal, call ≠ .reader (.value ordinal))
    (run : (manner.perform origin call).run.Runs trace result) : deliveries trace = [] := by
  match call with
  | .connect | .query _ | .change _ | .scalar _ | .reader .nextSet | .reader .nextRow =>
    rcases Program.runs_perform run with rfl | rfl | ⟨-, rfl | rfl⟩ <;> rfl
  | .reader (.value ordinal) => exact absurd rfl (other ordinal)

/-- A call that returns a value delivers it. -/
theorem deliveries_value {manner : Manner} {ordinal : Nat} {trace : List Exchange} {value : Value}
    (run : (manner.perform .reader (.reader (.value ordinal))).run.Runs trace (.ok value)) :
    deliveries trace = [(value, ordinal)] := by
  rcases Program.runs_perform run with rfl | rfl | ⟨failed, -⟩
  · rfl
  · rfl
  · cases failed

end BatchedSave
