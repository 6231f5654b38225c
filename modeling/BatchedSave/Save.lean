import BatchedSave.RoundTrip

/-!
# Saves

A save draws commands one at a time and fills a batch. When a command does not fit, the batch is
closed and sent, and the command starts the next one; what is left in the end is sent last. The
first failure ends the save, and batches sent before it stay applied.
-/
namespace BatchedSave

/-- What a save has achieved. -/
structure SaveOutcome where
  commands : List Command := []
  rowsAffected : Nat := 0
  batches : Nat := 0
  deriving DecidableEq, Repr

/-- Adds a round trip. The total has to stay in range. -/
def SaveOutcome.absorb (o : SaveOutcome) (e : Executed) : Except (Abort Error) SaveOutcome :=
  let total := o.rowsAffected + e.total
  if total < totalBound then .ok ⟨o.commands ++ e.commands, total, o.batches + 1⟩
  else .error .totalOutOfRange

/-- Work that may end early. -/
abbrev Course := ExceptT (Abort Error) Program

/-- A part of a save that ends in a result or an error. -/
def Course.ofResult {α : Type} (result : Except Error α) : Course α :=
  ExceptT.mk (pure (result.mapError .failed))

/-- How a save cuts its commands into batches. A closed batch of fewer than `minBatchSize` commands
is sent one command at a time. -/
structure Save where
  placeholder : String → String := atPlaceholder
  limits : Limits
  options : BatchOptions := {}
  minBatchSize : Nat := 1

namespace Save

/-- The save a configuration asks for, within given limits. -/
def ofConfig (placeholder : String → String) (limits : Limits) (c : Config) : Save :=
  { placeholder
    limits
    options := .ofConfig c
    minBatchSize := c.batch.minBatchSize.toNat }

def emptyBatch (s : Save) : Batch :=
  { placeholder := s.placeholder, limits := s.limits, options := s.options }

/-- A command that does not fit an empty batch never will. -/
def oversized (c : Command) : Error :=
  .plain .unsupported .batch
    ("command for table '" ++ c.table ++ "' exceeds the batch limits on its own")

def singularRejected : Error :=
  .plain .invariantViolation .batch "singular batch rejected its only command"

/-- Tries a command on a batch; an error ends the save. -/
def tryAdd (b : Batch) (c : Command) : Course (Batch × Admission) := do
  let (b, result) ← b.tryAdd c
  return (b, ← Course.ofResult result)

/-- The batch is too small to be sent whole. -/
def splits (s : Save) (b : Batch) : Bool :=
  1 < b.commands.length && b.commands.length < s.minBatchSize

/-- Sends a batch and adds it to the outcome. -/
def sendWhole (manner : Manner) (b : Batch) (o : SaveOutcome) : Course SaveOutcome := do
  let executed ← ExceptT.mk (b.execute manner)
  liftExcept (o.absorb executed)

/-- Sends one command in a round trip of its own. -/
def sendSingle (s : Save) (manner : Manner) (o : SaveOutcome) (c : Command) :
    Course SaveOutcome := do
  let single : Batch := { s.emptyBatch with limits := .singular }
  match ← tryAdd single c with
  | (single, .added) => sendWhole manner single o
  | (_, .full _) => Course.ofResult (.error singularRejected)

/-- Sends a closed batch, whole or command by command. -/
def send (s : Save) (manner : Manner) (b : Batch) (o : SaveOutcome) : Course SaveOutcome := do
  Program.request (.log (.executingBatch b.commands.length b.parameterCount))
  if s.splits b then b.commands.foldlM (s.sendSingle manner) o
  else sendWhole manner b o

/-- Starts the next batch with a command that did not fit the last one. -/
def startBatch (s : Save) (c : Command) : Course Batch := do
  match ← tryAdd s.emptyBatch c with
  | (b, .added) => return b
  | (_, .full c) => Course.ofResult (.error (oversized c))

/-- Saves the commands still to be drawn, with a batch being filled. -/
def fill (s : Save) (manner : Manner) (o : SaveOutcome) (b : Batch) :
    List Command → Course SaveOutcome
  | [] => do
    Program.request (.pull none)
    if b.commands.isEmpty then return o else s.send manner b o
  | c :: rest => do
    Program.request (.pull (some c))
    match ← tryAdd b c with
    | (b, .added) => s.fill manner o b rest
    | (b, .full c) =>
      if b.commands.isEmpty then Course.ofResult (.error (oversized c))
      else do
        let o ← s.send manner b o
        let b ← s.startBatch c
        s.fill manner o b rest

/-- Saves commands in order. -/
def run (s : Save) (manner : Manner) (commands : List Command) :
    Program (Except (Abort Error) SaveOutcome) :=
  (s.fill manner {} s.emptyBatch commands).run

end Save

end BatchedSave
