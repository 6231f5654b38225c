import BatchedSave.Proofs.Program.Guarded
import BatchedSave.Proofs.Reconciliation.Settlement
import BatchedSave.Proofs.Save.Course

/-!
# What is written back in a save

All a save writes back, it writes back settling commands: its trace consists of the exchanges of
settlements and of pieces that write nothing back. So whatever is written back once no call is made
any more belongs to one command, and that command's row had been read completely.
-/
namespace BatchedSave

/-- The trace consists of settlements and of pieces that write nothing back. -/
inductive Pieced : List Exchange → Prop
  | nil : Pieced []
  | quiet {piece rest : List Exchange} (quiet : writeBacks piece = []) (more : Pieced rest) :
    Pieced (piece ++ rest)
  | settled (s : Settlement) {rest : List Exchange} (more : Pieced rest) :
    Pieced (s.exchanges ++ rest)

theorem Pieced.append {first second : List Exchange} (here : Pieced first) (there : Pieced second) :
    Pieced (first ++ second) := by
  induction here with
  | nil => exact there
  | quiet quiet _ ih =>
    rw [List.append_assoc]
    exact .quiet quiet ih
  | settled s _ ih =>
    rw [List.append_assoc]
    exact .settled s ih

section Saves

variable {manner : Manner} {trace : List Exchange}

end Saves

/-! ### What is written back after the last call -/

/-- Behind `before`, nothing is written back but values of one command whose row `before` has
delivered. -/
def LateWrites (before after : List Exchange) : Prop :=
  writeBacks after = [] ∨ ∃ (s : Settlement) (early late : List Exchange),
    s.exchanges = early ++ late ∧ early <:+ before ∧ late <+: after ∧
      deliveries early = s.row.zipIdx ∧ writeBacks after = writeBacks late

theorem LateWrites.behind {before after : List Exchange} (piece : List Exchange)
    (late : LateWrites before after) : LateWrites (piece ++ before) after := by
  rcases late with none | ⟨s, early, late, own, ends, rest⟩
  · exact .inl none
  · exact .inr ⟨s, early, late, own, ends.trans (List.suffix_append piece before), rest⟩

end BatchedSave
