import BatchedSave.Save
import BatchedSave.SaveError

/-!
# Savers

One dialect and one configuration. Every save with it is independent of the others.
-/
namespace BatchedSave

structure Saver where
  placeholder : String → String := atPlaceholder
  config : Config

namespace Saver

/-- The caps of the configuration. -/
def limits (s : Saver) : Limits :=
  .ofConfig s.config

def plan (s : Saver) : Save :=
  .ofConfig s.placeholder s.limits s.config

/-- Saves commands in order and tells failures the way callers see them. -/
def save (s : Saver) (manner : Manner) (commands : List Command) :
    Program (Except (Abort SaveError) SaveOutcome) := do
  return (← s.plan.run manner commands).mapError (·.map SaveError.ofError)

end Saver

end BatchedSave
