/-!
# Early ends

How a save or a part of it ends early: with an error, or because a number leaves the range it has
to stay in. The latter cannot be mended by whoever asked for the save, so it is not an error.
-/
namespace BatchedSave

inductive Abort (ε : Type) where
  | failed (error : ε)
  /-- Affected rows do not sum up within `2 ^ 64`. -/
  | totalOutOfRange
  /-- There is no command at the position asked for. -/
  | positionOutOfRange
  deriving DecidableEq, Repr

namespace Abort

def map {ε ε' : Type} (f : ε → ε') : Abort ε → Abort ε'
  | failed e => failed (f e)
  | totalOutOfRange => totalOutOfRange
  | positionOutOfRange => positionOutOfRange

end Abort

end BatchedSave
