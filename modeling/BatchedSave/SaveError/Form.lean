import BatchedSave.Document.Slot
import BatchedSave.SaveError

/-!
# The document form of save errors
-/
namespace BatchedSave

instance : DocumentForm SaveErrorKind :=
  ⟨fun k => .ofText k.label, Document.label? SaveErrorKind.label SaveErrorKind.all⟩

instance : DocumentForm Origin :=
  ⟨fun o => .ofText o.name, Document.label? Origin.name Origin.all⟩

namespace SaveError

def toDocument (e : SaveError) : Document :=
  .ofFields [
    ("kind", BatchedSave.toDocument e.kind),
    ("origin", BatchedSave.toDocument e.origin),
    ("message", .ofText e.message)]

def ofDocument? (d : Document) : Option SaveError := do
  match ← d.fields? ["kind", "origin", "message"] with
  | [kind, origin, message] =>
    return {
      kind := ← kind.required BatchedSave.ofDocument?
      origin := ← origin.required BatchedSave.ofDocument?
      message := ← message.required (·.text?) }
  | _ => none

end SaveError

instance : DocumentForm SaveError :=
  ⟨SaveError.toDocument, SaveError.ofDocument?⟩

end BatchedSave
