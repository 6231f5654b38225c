import BatchedSave.Document.Basic

/-!
# Slots

Taking a document for a structure with named fields. A record gives each field by its name, a list
by its place. What is not given is left to the field: it may be required, optional or have a
default.
-/
namespace BatchedSave

/-- What a document has in the place of a field. -/
inductive Slot where
  | given (d : Document)
  /-- The record does not name the field. -/
  | omitted
  /-- The list ends before the field. -/
  | beyond

namespace Slot

def required {α : Type} (value? : Document → Option α) : Slot → Option α
  | given d => value? d
  | _ => none

/-- A record may leave the field out; a list may not. -/
def optional {α : Type} (value? : Document → Option α) : Slot → Option (Option α)
  | given d => d.optional? value?
  | omitted => some none
  | beyond => none

def orElse {α : Type} (default : α) (value? : Document → Option α) : Slot → Option α
  | given d => value? d
  | _ => some default

end Slot

/-- What is put up with beyond the fields of a structure. -/
structure Tolerance where
  unknownFields : Bool
  surplusItems : Bool
  deriving DecidableEq, Repr

namespace Document

/-- The slot of one field among the entries of a record; a field given twice is refused. -/
def slot? (entries : List (Option String × Document)) (name : String) : Option Slot :=
  match entries.filter (·.1 == some name) with
  | [] => some .omitted
  | [(_, d)] => some (.given d)
  | _ => none

/-- The slots of the named fields, in the order of the names. -/
def slots? (t : Tolerance) (names : List String) : Document → Option (List Slot)
  | list items =>
    if t.surplusItems || items.length ≤ names.length then
      some (names.mapIdx fun i _ =>
        match items[i]? with
        | some d => .given d
        | none => .beyond)
    else none
  | record entries =>
    if entries.all fun (key, _) => key.any fun k => t.unknownFields || names.contains k then
      names.mapM (slot? entries)
    else none
  | _ => none

/-- Slots of data that may carry more than is asked for. -/
def fields? (names : List String) (d : Document) : Option (List Slot) :=
  d.slots? ⟨true, false⟩ names

end Document

end BatchedSave
