/-!
# Errors

An error is an envelope: what class of failure it is, where it arose, a message, and the verdict
on the update if one was reached. Stores, dialects and limits raise errors of their own in the
same envelope, so class, message and verdict need not agree.
-/
namespace BatchedSave

inductive ErrorClass where
  | conflict | invariantViolation | internal | unsupported | cancelled
  deriving DecidableEq, Repr

def ErrorClass.label : ErrorClass → String
  | conflict => "conflict"
  | invariantViolation => "invariant_violation"
  | internal => "internal"
  | unsupported => "unsupported"
  | cancelled => "cancelled"

def ErrorClass.all : List ErrorClass :=
  [conflict, invariantViolation, internal, unsupported, cancelled]

/-- The part of a save an error comes from. -/
inductive Origin where
  | command | batch | generator | connection | store | reader | config
  deriving DecidableEq, Repr

def Origin.label : Origin → String
  | command => "command"
  | batch => "batch"
  | generator => "generator"
  | connection => "connection"
  | store => "store"
  | reader => "reader"
  | config => "config"

def Origin.all : List Origin :=
  [command, batch, generator, connection, store, reader, config]

/-- Names one command of a batch in reports. `entry` is the caller's handle of the changed row. -/
structure CommandRef where
  index : Nat
  table : String
  entry : Nat
  deriving DecidableEq, Repr

def CommandRef.text (c : CommandRef) : String :=
  "command " ++ toString c.index ++ " (table '" ++ c.table ++ "', entry " ++ toString c.entry ++ ")"

mutual

structure Error where
  cls : ErrorClass
  origin : Origin
  message : String
  verdict : Verdict

/-- How a failed update is classified. -/
inductive Verdict where
  /-- No verdict was reached. -/
  | unclassified
  /-- The row to change was missing or had already been changed. -/
  | conflict (command : CommandRef) (expected actual : Nat)
  /-- The result stream disagrees with the statements sent. -/
  | violation (index : Nat) (message : String)
  /-- The store failed; `command` is the likely culprit. -/
  | storeFailure (command : Option CommandRef) (source : Error)
  /-- The caller gave up. -/
  | cancelled

end

deriving instance DecidableEq, Repr for Error, Verdict

/-- The verdict in words, if there is one. -/
def Verdict.text : Verdict → Option String
  | unclassified => none
  | conflict command expected actual =>
    some ("concurrency conflict on " ++ command.text ++ ": expected " ++ toString expected
      ++ " affected row(s), store reported " ++ toString actual)
  | violation index message =>
    some ("result protocol violation at command " ++ toString index ++ ": " ++ message)
  | storeFailure _ _ => some "store failure"
  | cancelled => some "operation cancelled"

/-- The failure behind a store failure. -/
def Verdict.source : Verdict → Option Error
  | storeFailure _ source => some source
  | _ => none

namespace Error

/-- An error without a verdict. -/
def plain (cls : ErrorClass) (origin : Origin) (message : String) : Error :=
  ⟨cls, origin, message, .unclassified⟩

def generatorUnsupported (message : String) : Error :=
  plain .unsupported .generator message

def connectionInternal (message : String) : Error :=
  plain .internal .connection message

def storeInternal (message : String) : Error :=
  plain .internal .store message

def readerInternal (message : String) : Error :=
  plain .internal .reader message

/-- An error that its verdict describes completely. -/
def judged (cls : ErrorClass) (origin : Origin) (verdict : Verdict) : Error :=
  ⟨cls, origin, verdict.text.getD "", verdict⟩

def conflict (command : CommandRef) (expected actual : Nat) : Error :=
  judged .conflict .reader (.conflict command expected actual)

def violation (index : Nat) (message : String) : Error :=
  judged .invariantViolation .reader (.violation index message)

def cancelled (origin : Origin) : Error :=
  judged .cancelled origin .cancelled

/-- Wraps a failure of the store that reached no verdict of its own. One round trip carries many
statements and does not say which one failed, so `command` is a guess. -/
def storeFailure (command : Option CommandRef) (source : Error) : Error :=
  let cause := match command with
    | some c => " (probable cause: " ++ c.text ++ ")"
    | none => ""
  ⟨.internal, .store, "store update failed" ++ cause ++ ": " ++ source.message,
    .storeFailure command source⟩

/-- A verdict was reached. -/
def isJudged (e : Error) : Bool :=
  match e.verdict with
  | .unclassified => false
  | _ => true

def isConflict (e : Error) : Bool :=
  match e.verdict with
  | .conflict .. => true
  | _ => false

def isViolation (e : Error) : Bool :=
  match e.verdict with
  | .violation .. => true
  | _ => false

/-- Cancellation is a matter of the class alone. -/
def isCancelled (e : Error) : Bool :=
  e.cls = .cancelled

/-- The message led by origin and class. -/
def textWithClass (e : Error) : String :=
  e.origin.label ++ ":" ++ e.cls.label ++ ": " ++ e.message

end Error

end BatchedSave
