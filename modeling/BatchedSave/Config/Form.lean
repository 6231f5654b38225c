import BatchedSave.Config.Basic
import BatchedSave.Document.Slot

/-!
# The document form of a configuration

A configuration is three sections of settings. Whatever is left out has its default, a whole
section as well as a single setting; a name that is not declared is refused at every level. How
surplus items of a list are taken depends on the notation.
-/
namespace BatchedSave

/-- Whole numbers that fit a 64-bit word. -/
def Document.word? (d : Document) : Option UInt64 :=
  (d.nat? UInt64.size).map (·.toUInt64)

def Document.ofWord (n : UInt64) : Document :=
  .ofNat n.toNat

/-- No unknown settings; a list ends with the last setting unless surplus items are put up with. -/
def settingTolerance (surplus : Bool) : Tolerance :=
  ⟨false, surplus⟩

namespace BatchSettings

def toDocument (s : BatchSettings) : Document :=
  .ofFields [
    ("max_batch_size", .ofWord s.maxBatchSize),
    ("max_parameters", .ofWord s.maxParameters),
    ("min_batch_size", .ofWord s.minBatchSize)]

def ofDocument? (surplus : Bool) (d : Document) : Option BatchSettings := do
  let slots ← d.slots? (settingTolerance surplus)
    ["max_batch_size", "max_parameters", "min_batch_size"]
  match slots with
  | [size, parameters, least] =>
    return {
      maxBatchSize := ← size.orElse defaultMaxBatchSize (·.word?)
      maxParameters := ← parameters.orElse defaultMaxParameters (·.word?)
      minBatchSize := ← least.orElse 1 (·.word?) }
  | _ => none

end BatchSettings

namespace CommandSettings

def toDocument (s : CommandSettings) : Document :=
  .ofFields [("timeout_secs", .ofOption .ofWord s.timeoutSecs)]

def ofDocument? (surplus : Bool) (d : Document) : Option CommandSettings := do
  match ← d.slots? (settingTolerance surplus) ["timeout_secs"] with
  | [timeout] => return ⟨← timeout.orElse none (·.optional? (·.word?))⟩
  | _ => none

end CommandSettings

namespace LoggingSettings

def toDocument (s : LoggingSettings) : Document :=
  .ofFields [("sensitive_data_logging", .bool s.sensitiveDataLogging)]

def ofDocument? (surplus : Bool) (d : Document) : Option LoggingSettings := do
  match ← d.slots? (settingTolerance surplus) ["sensitive_data_logging"] with
  | [sensitive] => return ⟨← sensitive.orElse false (·.bool?)⟩
  | _ => none

end LoggingSettings

namespace Config

def toDocument (c : Config) : Document :=
  .ofFields [
    ("batch", c.batch.toDocument),
    ("command", c.command.toDocument),
    ("logging", c.logging.toDocument)]

def ofDocument? (surplus : Bool) (d : Document) : Option Config := do
  match ← d.slots? (settingTolerance surplus) ["batch", "command", "logging"] with
  | [batch, command, logging] =>
    return {
      batch := ← batch.orElse {} (BatchSettings.ofDocument? surplus)
      command := ← command.orElse {} (CommandSettings.ofDocument? surplus)
      logging := ← logging.orElse {} (LoggingSettings.ofDocument? surplus) }
  | _ => none

end Config

instance : DocumentForm BatchSettings :=
  ⟨BatchSettings.toDocument, BatchSettings.ofDocument? false⟩

instance : DocumentForm CommandSettings :=
  ⟨CommandSettings.toDocument, CommandSettings.ofDocument? false⟩

instance : DocumentForm LoggingSettings :=
  ⟨LoggingSettings.toDocument, LoggingSettings.ofDocument? false⟩

instance : DocumentForm Config :=
  ⟨Config.toDocument, Config.ofDocument? false⟩

end BatchedSave
