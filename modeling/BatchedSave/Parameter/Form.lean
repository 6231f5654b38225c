import BatchedSave.Parameter
import BatchedSave.Value.Form

/-!
# The document form of parameters
-/
namespace BatchedSave

instance : DocumentForm DbType :=
  ⟨fun t => .ofText t.label, Document.label? DbType.label DbType.all⟩

instance : DocumentForm ParameterDirection :=
  ⟨fun d => .ofText d.label, Document.label? ParameterDirection.label ParameterDirection.all⟩

namespace TypeMapping

def toDocument (m : TypeMapping) : Document :=
  .ofFields [("store_type", .ofText m.storeType), ("db_type", BatchedSave.toDocument m.dbType)]

def ofDocument? (d : Document) : Option TypeMapping := do
  match ← d.fields? ["store_type", "db_type"] with
  | [storeType, dbType] =>
    return ⟨← storeType.required (·.text?), ← dbType.required BatchedSave.ofDocument?⟩
  | _ => none

end TypeMapping

instance : DocumentForm TypeMapping :=
  ⟨TypeMapping.toDocument, TypeMapping.ofDocument?⟩

namespace StoreParameter

def toDocument (p : StoreParameter) : Document :=
  .ofFields [
    ("name", .ofText p.name),
    ("value", p.value.toDocument),
    ("db_type", BatchedSave.toDocument p.dbType),
    ("direction", BatchedSave.toDocument p.direction),
    ("nullable", .bool p.nullable)]

def ofDocument? (d : Document) : Option StoreParameter := do
  match ← d.fields? ["name", "value", "db_type", "direction", "nullable"] with
  | [name, value, dbType, direction, nullable] =>
    return {
      name := ← name.required (·.text?)
      value := ← value.required Value.ofDocument?
      dbType := ← dbType.required BatchedSave.ofDocument?
      direction := ← direction.required BatchedSave.ofDocument?
      nullable := ← nullable.required (·.bool?) }
  | _ => none

end StoreParameter

instance : DocumentForm StoreParameter :=
  ⟨StoreParameter.toDocument, StoreParameter.ofDocument?⟩

end BatchedSave
