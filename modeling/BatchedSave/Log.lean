import BatchedSave.Error
import BatchedSave.Statement
import BatchedSave.Text.Quoted

/-!
# Log entries

What is logged, at which level and in which words. Parameter values are written only when the
statement allows it.
-/
namespace BatchedSave.Log

/-- Levels, the gravest first. -/
inductive Level where
  | error | warn | info | debug | trace
  deriving DecidableEq, Repr

namespace Level

def label : Level → String
  | error => "ERROR"
  | warn => "WARN"
  | info => "INFO"
  | debug => "DEBUG"
  | trace => "TRACE"

def all : List Level := [error, warn, info, debug, trace]

/-- The level is shown where `threshold` is asked for. -/
def shownAt (level threshold : Level) : Bool :=
  level.ctorIdx ≤ threshold.ctorIdx

end Level

inductive Entry where
  | batchFull (commands parameters : Nat)
  | executingBatch (commands parameters : Nat)
  | executingCommand (sensitive : Bool) (command : StoreCommand)
  | conflict (error : Error)
  | violation (error : Error)
  | batchCancelled (commands : Nat)
  | storeFailed (error : Error) (probable : Option CommandRef)
  deriving DecidableEq, Repr

namespace Entry

def level : Entry → Level
  | batchFull .. => .trace
  | executingBatch .. => .debug
  | executingCommand .. => .debug
  | conflict _ => .warn
  | violation _ => .warn
  | batchCancelled _ => .debug
  | storeFailed .. => .error

def message : Entry → String
  | batchFull .. => "batch full"
  | executingBatch .. => "executing batch"
  | executingCommand _ command => "executing command:\n" ++ command.text
  | conflict _ => "concurrency conflict"
  | violation _ => "result protocol violation"
  | batchCancelled _ => "batch execution cancelled"
  | storeFailed .. => "store update failed"

def optional (content : Option String) : String :=
  match content with
  | some s => "Some(" ++ s ++ ")"
  | none => "None"

/-- Names of the parameters, with their values where those may be shown. -/
def parameterText (sensitive : Bool) (parameters : List StoreParameter) : String :=
  ", ".intercalate (parameters.map fun p =>
    if sensitive then p.name ++ "=" ++ p.value.display else p.name)

/-- Whole seconds; no time at all is told in the smallest unit. -/
def secondsText (seconds : Nat) : String :=
  if seconds = 0 then "0ns" else toString seconds ++ "s"

def refText (c : CommandRef) : String :=
  "CommandRef \x7b index: " ++ toString c.index ++ ", table: " ++ Text.quoted c.table
    ++ ", entry: EntryRef(" ++ toString c.entry ++ ") \x7d"

/-- The named fields of an entry, all as text. -/
def fields : Entry → List (String × String)
  | batchFull commands parameters | executingBatch commands parameters =>
    [("commands", toString commands), ("parameters", toString parameters)]
  | executingCommand sensitive command =>
    [("parameters", parameterText sensitive command.parameters),
     ("timeout", optional (command.timeout.map secondsText))]
  | conflict error | violation error => [("error", error.message)]
  | batchCancelled commands => [("commands", toString commands)]
  | storeFailed error probable =>
    [("error", error.message), ("probable_command", optional (probable.map refText))]

end Entry

end BatchedSave.Log
