import BatchedSave.Metrics.Counters

/-!
# The meter

Where metrics events go. While a sink is in force it receives every event; otherwise the counters
do. A scope puts a sink in force and, however it is left, puts the former one back.
-/
namespace BatchedSave.Metrics

/-- The sink in force is named by its label; `delivered` is what sinks received, the
latest first. -/
structure Meter where
  counters : Counters := {}
  sink : Option String := none
  delivered : List (String × Event Micros) := []
  deriving DecidableEq, Repr

namespace Meter

def record (m : Meter) (event : Event Micros) : Meter :=
  match m.sink with
  | some label => { m with delivered := (label, event) :: m.delivered }
  | none => { m with counters := m.counters.apply event }

/-- Takes a notice in, with the time that has been measured for it. -/
def take (m : Meter) (measured : Micros) (notice : Notice) : Meter :=
  m.record (notice.stamped measured)

/-- Puts a sink in force. -/
def enter (m : Meter) (label : String) : Meter :=
  { m with sink := some label }

/-- Puts the former sink back in force. -/
def leave (m : Meter) (former : Option String) : Meter :=
  { m with sink := former }

/-- Runs `body` with a sink in force. The former one returns whether `body` succeeds or fails. -/
def within {ε α : Type} (label : String) (body : Meter → Except ε α × Meter) (m : Meter) :
    Except ε α × Meter :=
  let (result, after) := body (m.enter label)
  (result, after.leave m.sink)

/-- All totals back to nothing. -/
def reset (m : Meter) : Meter :=
  { m with counters := {} }

end Meter

end BatchedSave.Metrics
