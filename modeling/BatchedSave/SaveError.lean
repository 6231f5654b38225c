import BatchedSave.Config.Basic

/-!
# Save errors

The error a caller of a save sees: what kind of failure it is, where it arose, and a message.
-/
namespace BatchedSave

/-- What a caller can do about a failure. -/
inductive SaveErrorKind where
  /-- A row to change was missing or already changed. -/
  | concurrencyConflict
  /-- The result stream disagrees with the statements sent. -/
  | protocolViolation
  /-- The store rejected a batch. -/
  | storeFailure
  | cancelled
  /-- A command that cannot be expressed. -/
  | unsupported
  /-- The configuration was rejected. -/
  | invalid
  /-- Nothing. -/
  | internal
  deriving DecidableEq, Repr

namespace SaveErrorKind

def label : SaveErrorKind → String
  | concurrencyConflict => "ConcurrencyConflict"
  | protocolViolation => "ProtocolViolation"
  | storeFailure => "StoreFailure"
  | cancelled => "Cancelled"
  | unsupported => "Unsupported"
  | invalid => "Invalid"
  | internal => "Internal"

def all : List SaveErrorKind :=
  [concurrencyConflict, protocolViolation, storeFailure, cancelled, unsupported, invalid, internal]

/-- The kind of an error: by its verdict, and without one by its class. -/
def ofError (e : Error) : SaveErrorKind :=
  match e.verdict, e.cls with
  | .conflict .., _ => concurrencyConflict
  | .violation .., _ => protocolViolation
  | .storeFailure .., _ => storeFailure
  | .cancelled, _ => cancelled
  | .unclassified, .conflict => concurrencyConflict
  | .unclassified, .unsupported => if e.origin = .config then invalid else unsupported
  | .unclassified, .cancelled => cancelled
  | .unclassified, .invariantViolation => internal
  | .unclassified, .internal => internal

end SaveErrorKind

/-- The name of an origin that callers see. -/
def Origin.name : Origin → String
  | command => "Command"
  | batch => "Batch"
  | generator => "Generator"
  | connection => "Connection"
  | store => "Store"
  | reader => "Reader"
  | config => "Config"

structure SaveError where
  kind : SaveErrorKind
  origin : Origin
  message : String
  deriving DecidableEq, Repr

namespace SaveError

def ofError (e : Error) : SaveError :=
  ⟨.ofError e, e.origin, e.message⟩

def ofConfigError (e : ConfigError) : SaveError :=
  ⟨.invalid, .config, e.message⟩

def isConflict (e : SaveError) : Bool :=
  e.kind = .concurrencyConflict

def isCancelled (e : SaveError) : Bool :=
  e.kind = .cancelled

end SaveError

end BatchedSave
