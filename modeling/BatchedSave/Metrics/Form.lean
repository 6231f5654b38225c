import BatchedSave.Document.Slot
import BatchedSave.Metrics.Counters

/-!
# The document form of counters and reports

Totals are whole numbers within a 64-bit word, except the total time, which has 128 bits. The
counters of tables are a record by table name, in increasing order when written; of a name given
twice the last entry counts.
-/
namespace BatchedSave.Metrics

/-- A total as counters show it. -/
def total? (d : Document) : Option Nat :=
  d.nat? UInt64.size

namespace Operations

def toDocument (o : Operations) : Document :=
  .ofFields [
    ("batches_started", .ofNat o.batchesStarted),
    ("batches_finished", .ofNat o.batchesFinished),
    ("batch_full", .ofNat o.batchFull),
    ("commands_executed", .ofNat o.commandsExecuted),
    ("parameters_bound", .ofNat o.parametersBound),
    ("rows_affected", .ofNat o.rowsAffected),
    ("generated_values", .ofNat o.generatedValues),
    ("concurrency_conflicts", .ofNat o.conflicts),
    ("protocol_violations", .ofNat o.violations),
    ("store_failures", .ofNat o.storeFailures),
    ("cancellations", .ofNat o.cancellations)]

def ofDocument? (d : Document) : Option Operations := do
  let slots ← d.fields? ["batches_started", "batches_finished", "batch_full", "commands_executed",
    "parameters_bound", "rows_affected", "generated_values", "concurrency_conflicts",
    "protocol_violations", "store_failures", "cancellations"]
  match ← slots.mapM (·.required total?) with
  | [started, finished, full, executed, bound, rows, generated, conflicts, violations, failures,
      cancellations] =>
    return {
      batchesStarted := started
      batchesFinished := finished
      batchFull := full
      commandsExecuted := executed
      parametersBound := bound
      rowsAffected := rows
      generatedValues := generated
      conflicts
      violations
      storeFailures := failures
      cancellations }
  | _ => none

end Operations

instance : DocumentForm Operations :=
  ⟨Operations.toDocument, Operations.ofDocument?⟩

namespace Performance

def toDocument (p : Performance) : Document :=
  .ofFields [
    ("batch_micros_total", .ofNat p.microsTotal),
    ("batch_micros_max", .ofNat p.microsMax),
    ("batch_commands_max", .ofNat p.commandsMax)]

def ofDocument? (d : Document) : Option Performance := do
  match ← d.fields? ["batch_micros_total", "batch_micros_max", "batch_commands_max"] with
  | [microsTotal, microsMax, commandsMax] =>
    return {
      microsTotal := ← microsTotal.required (·.nat? (Nat.pow 2 128))
      microsMax := ← microsMax.required total?
      commandsMax := ← commandsMax.required total? }
  | _ => none

end Performance

instance : DocumentForm Performance :=
  ⟨Performance.toDocument, Performance.ofDocument?⟩

namespace TableCounters

def toDocument (c : TableCounters) : Document :=
  .ofFields [
    ("inserts", .ofNat c.inserts),
    ("updates", .ofNat c.updates),
    ("deletes", .ofNat c.deletes),
    ("conflicts", .ofNat c.conflicts)]

def ofDocument? (d : Document) : Option TableCounters := do
  let slots ← d.fields? ["inserts", "updates", "deletes", "conflicts"]
  match ← slots.mapM (·.required total?) with
  | [inserts, updates, deletes, conflicts] => return { inserts, updates, deletes, conflicts }
  | _ => none

end TableCounters

instance : DocumentForm TableCounters :=
  ⟨TableCounters.toDocument, TableCounters.ofDocument?⟩

namespace Counters

/-- Counters by table name. -/
def tables? : Document → Option (Table TableCounters)
  | .record entries => do
    let read ← entries.mapM fun (name, d) => do
      return (← name, ← TableCounters.ofDocument? d)
    return .ofList read
  | _ => none

def toDocument (c : Counters) : Document :=
  .ofFields [
    ("ops", c.operations.toDocument),
    ("perf", c.performance.toDocument),
    ("tables", .ofFields (c.tables.map fun (name, t) => (name, t.toDocument))),
    ("since_ms", .ofNat c.since)]

def ofDocument? (d : Document) : Option Counters := do
  match ← d.fields? ["ops", "perf", "tables", "since_ms"] with
  | [operations, performance, tables, since] =>
    return {
      operations := ← operations.required Operations.ofDocument?
      performance := ← performance.required Performance.ofDocument?
      tables := ← tables.required tables?
      since := ← since.required total? }
  | _ => none

end Counters

instance : DocumentForm Counters :=
  ⟨Counters.toDocument, Counters.ofDocument?⟩

namespace TableSummary

def toDocument (s : TableSummary) : Document :=
  .ofFields [
    ("table", .ofText s.table),
    ("commands", .ofNat s.commands),
    ("inserts", .ofNat s.inserts),
    ("updates", .ofNat s.updates),
    ("deletes", .ofNat s.deletes),
    ("conflicts", .ofNat s.conflicts),
    ("conflict_rate", .ofFloat s.conflictRate)]

def ofDocument? (d : Document) : Option TableSummary := do
  let slots ← d.fields? ["table", "commands", "inserts", "updates", "deletes", "conflicts",
    "conflict_rate"]
  match slots with
  | [table, commands, inserts, updates, deletes, conflicts, rate] =>
    return {
      table := ← table.required (·.text?)
      commands := ← commands.required total?
      inserts := ← inserts.required total?
      updates := ← updates.required total?
      deletes := ← deletes.required total?
      conflicts := ← conflicts.required total?
      conflictRate := ← rate.required (·.float?) }
  | _ => none

end TableSummary

instance : DocumentForm TableSummary :=
  ⟨TableSummary.toDocument, TableSummary.ofDocument?⟩

namespace Report

def toDocument (r : Report) : Document :=
  .ofFields [
    ("counters", .ofOption Counters.toDocument r.counters),
    ("table_counters", .list (r.tables.map (·.toDocument)))]

def ofDocument? (d : Document) : Option Report := do
  match ← d.fields? ["counters", "table_counters"] with
  | [counters, tables] =>
    return {
      counters := ← counters.optional Counters.ofDocument?
      tables := ← tables.required (·.list? TableSummary.ofDocument?) }
  | _ => none

end Report

instance : DocumentForm Report :=
  ⟨Report.toDocument, Report.ofDocument?⟩

end BatchedSave.Metrics
