import BatchedSave.Command

/-!
# What limits see

A batch as its limits see it: the commands, and the parameters they bind in all.
-/
namespace BatchedSave

structure BatchView where
  commands : List Command
  parameterCount : Nat
  deriving DecidableEq, Repr

end BatchedSave
