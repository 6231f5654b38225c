import BatchedSave.Error
import BatchedSave.Statement

/-!
# Configuration

The settings of batched saves. Every setting has a default, so nothing need be said.
-/
namespace BatchedSave

/-- Default cap on the commands of one round trip. -/
def defaultMaxBatchSize : UInt64 := 42

/-- Default cap on the parameters of one round trip: the smallest limit among common relational
stores, 2100, less what stores take for themselves. -/
def defaultMaxParameters : UInt64 := 2098

/-- Closed batches of fewer than `minBatchSize` commands run one command at a time. -/
structure BatchSettings where
  maxBatchSize : UInt64 := defaultMaxBatchSize
  maxParameters : UInt64 := defaultMaxParameters
  minBatchSize : UInt64 := 1
  deriving DecidableEq, Repr

structure CommandSettings where
  timeoutSecs : Option UInt64 := none
  deriving DecidableEq, Repr

structure LoggingSettings where
  /-- Parameter values may be logged. -/
  sensitiveDataLogging : Bool := false
  deriving DecidableEq, Repr

structure Config where
  batch : BatchSettings := {}
  command : CommandSettings := {}
  logging : LoggingSettings := {}
  deriving DecidableEq, Repr

/-- Why a configuration is rejected. -/
inductive ConfigError where
  | unreadable (path reason : String)
  | malformed
  | zeroBatchSize
  | zeroParameters
  | minAboveMax (min max : UInt64)
  deriving DecidableEq, Repr

namespace ConfigError

/-- The setting at fault and what is wrong with it. -/
def setting : ConfigError → Option (String × String)
  | zeroBatchSize => some ("batch.max_batch_size", "must be at least 1")
  | zeroParameters => some ("batch.max_parameters", "must be at least 1")
  | minAboveMax min max =>
    some ("batch.min_batch_size", "(" ++ toString min ++ ") must not exceed batch.max_batch_size ("
      ++ toString max ++ ")")
  | _ => none

def message (e : ConfigError) : String :=
  match e.setting, e with
  | some (field, fault), _ => "invalid config: " ++ field ++ " " ++ fault
  | none, unreadable path reason => "failed to read config file '" ++ path ++ "': " ++ reason
  | none, _ => "failed to parse config"

def toError (e : ConfigError) : Error :=
  .plain .unsupported .config e.message

end ConfigError

namespace Config

/-- The bounds that no setting may break; the first one broken is told. -/
def validate (c : Config) : Except ConfigError Unit :=
  if c.batch.maxBatchSize = 0 then .error .zeroBatchSize
  else if c.batch.maxParameters = 0 then .error .zeroParameters
  else if c.batch.maxBatchSize < c.batch.minBatchSize then
    .error (.minAboveMax c.batch.minBatchSize c.batch.maxBatchSize)
  else .ok ()

/-- Seconds a command may take. -/
def timeout (c : Config) : Option Nat :=
  c.command.timeoutSecs.map (·.toNat)

/-- A connection that follows the configuration. -/
def settings (c : Config) : Settings :=
  { timeout := c.timeout }

end Config

end BatchedSave
