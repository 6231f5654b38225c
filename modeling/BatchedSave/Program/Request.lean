import BatchedSave.Batch.View
import BatchedSave.Cursor
import BatchedSave.Log
import BatchedSave.Metrics.Event

/-!
# Requests

Everything a save asks of its surroundings, and what it is told: the dialect renders statements,
limits may be consulted, the store opens, executes and reads, a token tells of cancellation,
generated values are written back to the tracked entries, the source of commands is drawn from,
events are counted and logged.
-/
namespace BatchedSave

/-- A call on the store that may fail and that cancellation may interrupt. -/
inductive StoreCall where
  | connect
  /-- Executes a command whose results are read afterwards. -/
  | query (command : StoreCommand)
  /-- Executes a command and tells how many rows it affected. -/
  | change (command : StoreCommand)
  /-- Executes a command and tells its single value. -/
  | scalar (command : StoreCommand)
  | reader (call : ReaderCall)
  deriving DecidableEq, Repr

abbrev StoreCall.Result : StoreCall → Type
  | connect => Unit
  | query _ => Unit
  | change _ => Nat
  | scalar _ => Value
  | reader call => call.Result

/-- What a dialect appends for one command. A dialect that fails may have appended something
before. -/
structure Rendering where
  text : String
  failure : Option Error := none
  deriving DecidableEq, Repr

inductive Request where
  /-- Opening text of a batch. -/
  | header
  /-- Closing text of a batch. -/
  | footer
  /-- Statement text of one command. -/
  | fragment (command : Command)
  /-- Whether a command may be tried on a batch. -/
  | mayAdd (batch : BatchView) (command : Command)
  /-- Whether a batch is acceptable. -/
  | accepts (batch : BatchView)
  /-- A call that is waited for. -/
  | store (call : StoreCall)
  /-- A call that cancellation may drop while it is pending. -/
  | await (call : StoreCall)
  /-- Whether the caller has given up. -/
  | cancelled
  | settings
  /-- Width of the reader's current row. -/
  | fieldCount
  | close
  /-- A generated value goes back to the tracked entry. -/
  | writeBack (entry : Nat) (column : String) (value : Value)
  /-- The next command has been drawn; none is left after the last one. -/
  | pull (next : Option Command)
  | record (event : Metrics.Notice)
  | log (entry : Log.Entry)
  deriving DecidableEq, Repr

/-- The answer to a request. An awaited call that was dropped has none. -/
abbrev Request.Answer : Request → Type
  | header | footer => String
  | fragment _ => Rendering
  | mayAdd .. => Bool
  | accepts _ => Except Error Bool
  | store call => Except Error call.Result
  | await call => Option (Except Error call.Result)
  | cancelled => Bool
  | settings => Settings
  | fieldCount => Nat
  | close | writeBack .. | pull _ | record _ | log _ => Unit

end BatchedSave
