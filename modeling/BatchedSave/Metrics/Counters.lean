import BatchedSave.Metrics.Event

/-!
# Counters

Totals over a sequence of metrics events, and the report made from them. A counter that reaches
`2 ^ 64 - 1` stays there, and so does the total time at `2 ^ 128 - 1`.
-/
namespace BatchedSave.Metrics

/-- The largest total a counter shows. -/
def ceiling : Nat := UInt64.size - 1

/-- Adds and stays at the ceiling. -/
def plus (total amount : Nat) : Nat :=
  min (total + amount) ceiling

/-- The longest total time. -/
def timeCeiling : Micros := Nat.pow 2 128 - 1

structure Operations where
  batchesStarted : Nat := 0
  batchesFinished : Nat := 0
  batchFull : Nat := 0
  commandsExecuted : Nat := 0
  parametersBound : Nat := 0
  rowsAffected : Nat := 0
  generatedValues : Nat := 0
  conflicts : Nat := 0
  violations : Nat := 0
  storeFailures : Nat := 0
  cancellations : Nat := 0
  deriving DecidableEq, Repr

structure Performance where
  microsTotal : Micros := 0
  microsMax : Micros := 0
  commandsMax : Nat := 0
  deriving DecidableEq, Repr

/-- Adds the time of a round trip and keeps the longest one. -/
def Performance.addMicros (p : Performance) (elapsed : Micros) : Performance :=
  { p with
    microsTotal := min (p.microsTotal + elapsed) timeCeiling
    microsMax := max p.microsMax elapsed }

structure TableCounters where
  inserts : Nat := 0
  updates : Nat := 0
  deletes : Nat := 0
  conflicts : Nat := 0
  deriving DecidableEq, Repr

namespace TableCounters

def applied (c : TableCounters) : ChangeKind → TableCounters
  | .insert => { c with inserts := plus c.inserts 1 }
  | .update => { c with updates := plus c.updates 1 }
  | .delete => { c with deletes := plus c.deletes 1 }

def conflicted (c : TableCounters) : TableCounters :=
  { c with conflicts := plus c.conflicts 1 }

end TableCounters

/-- Entries in increasing order of their names, each name once. -/
abbrev Table (α : Type) := List (String × α)

namespace Table

/-- Changes the entry of `name`, which starts from `fresh` if there is none. -/
def upsert {α : Type} (fresh : α) (name : String) (change : α → α) : Table α → Table α
  | [] => [(name, change fresh)]
  | (other, a) :: rest =>
    if name = other then (other, change a) :: rest
    else if name < other then (name, change fresh) :: (other, a) :: rest
    else (other, a) :: upsert fresh name change rest

/-- The last entry of a name counts. -/
def ofList {α : Type} (entries : List (String × α)) : Table α :=
  entries.foldl (fun t (name, a) => upsert a name (fun _ => a) t) []

end Table

/-- All totals since the moment `since`. -/
structure Counters where
  operations : Operations := {}
  performance : Performance := {}
  tables : Table TableCounters := []
  since : Nat := 0
  deriving DecidableEq, Repr

namespace Counters

def onTable (c : Counters) (name : String) (change : TableCounters → TableCounters) : Counters :=
  { c with tables := c.tables.upsert {} name change }

/-- Adds one event to the totals. -/
def apply (c : Counters) (event : Event Micros) : Counters :=
  let ops := c.operations
  match event with
  | .batchStart commands parameters =>
    { c with
      operations := { ops with
        batchesStarted := plus ops.batchesStarted 1
        parametersBound := plus ops.parametersBound parameters }
      performance := { c.performance with commandsMax := max c.performance.commandsMax commands } }
  | .batchFinish commands rowsAffected elapsed =>
    { c with
      operations := { ops with
        batchesFinished := plus ops.batchesFinished 1
        commandsExecuted := plus ops.commandsExecuted commands
        rowsAffected := plus ops.rowsAffected rowsAffected }
      performance := c.performance.addMicros elapsed }
  | .batchFull _ => { c with operations := { ops with batchFull := plus ops.batchFull 1 } }
  | .commandApplied table kind generatedValues =>
    { c with operations := { ops with
        generatedValues := plus ops.generatedValues generatedValues } }
      |>.onTable table (·.applied kind)
  | .conflict table =>
    { c with operations := { ops with conflicts := plus ops.conflicts 1 } }
      |>.onTable table (·.conflicted)
  | .violation => { c with operations := { ops with violations := plus ops.violations 1 } }
  | .storeFailure => { c with operations := { ops with storeFailures := plus ops.storeFailures 1 } }
  | .cancelled => { c with operations := { ops with cancellations := plus ops.cancellations 1 } }

end Counters

/-- One table's line of the report. -/
structure TableSummary where
  table : String
  commands : Nat
  inserts : Nat
  updates : Nat
  deletes : Nat
  conflicts : Nat
  conflictRate : Binary64
  deriving DecidableEq, Repr

/-- The share of conflicts among all attempts; zero where nothing was attempted. -/
def conflictRate (conflicts attempts : Nat) : Binary64 :=
  if 0 < attempts then
    .ofFloat (conflicts.toUInt64.toFloat / attempts.toUInt64.toFloat)
  else .zero

def TableCounters.summary (table : String) (c : TableCounters) : TableSummary :=
  let commands := c.inserts + c.updates + c.deletes
  { table
    commands
    inserts := c.inserts
    updates := c.updates
    deletes := c.deletes
    conflicts := c.conflicts
    conflictRate := conflictRate c.conflicts (commands + c.conflicts) }

structure Report where
  counters : Option Counters
  tables : List TableSummary
  deriving DecidableEq, Repr

/-- The report on all counters, one line per table in order of the names. -/
def Counters.report (c : Counters) : Report :=
  ⟨some c, c.tables.map fun (name, t) => t.summary name⟩

end BatchedSave.Metrics
