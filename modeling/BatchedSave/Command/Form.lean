import BatchedSave.Command
import BatchedSave.Document.Slot

/-!
# The document form of change kinds and entries

An entry is a bare number within a 64-bit word.
-/
namespace BatchedSave

instance : DocumentForm ChangeKind :=
  ⟨fun k => .ofText k.label, Document.label? ChangeKind.label ChangeKind.all⟩

/-- The caller's handle of a tracked row, on its own. -/
structure EntryRef where
  entry : Nat
  deriving DecidableEq, Repr

instance : DocumentForm EntryRef :=
  ⟨fun e => .ofNat e.entry, fun d => (d.nat? UInt64.size).map EntryRef.mk⟩

end BatchedSave
