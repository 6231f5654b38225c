import BatchedSave.Parameter

/-!
# Statements

A statement text with its parameters, and what a connection adds to it before it is sent.
-/
namespace BatchedSave

/-- State of a connection that is copied onto every command sent over it. `transaction` is the
handle of the transaction to enlist in; times are whole seconds. -/
structure Settings where
  transaction : Option Nat := none
  timeout : Option Nat := none
  deriving DecidableEq, Repr

/-- A command in the form a store driver takes. -/
structure StoreCommand where
  text : String
  parameters : List StoreParameter
  transaction : Option Nat
  timeout : Option Nat
  deriving DecidableEq, Repr

/-- One statement text with its parameters. `sensitive` allows values in logs; `timeout` holds
where the connection sets none. -/
structure Statement where
  text : String := ""
  parameters : List Parameter := []
  sensitive : Bool := false
  timeout : Option Nat := none
  deriving DecidableEq, Repr

namespace Statement

def append (s : Statement) (text : String) : Statement :=
  { s with text := s.text ++ text }

def addParameter (s : Statement) (p : Parameter) : Statement :=
  { s with parameters := s.parameters ++ [p] }

/-- Binds a statement to a connection's settings. The connection's timeout wins. -/
def bind (s : Statement) (settings : Settings) : StoreCommand :=
  { text := s.text
    parameters := s.parameters.map (·.bind)
    transaction := settings.transaction
    timeout := settings.timeout.orElse fun _ => s.timeout }

end Statement

end BatchedSave
