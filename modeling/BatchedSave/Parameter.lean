import BatchedSave.Value

/-!
# Parameters

How a value is encoded for the store, and the named parameters a statement binds.
-/
namespace BatchedSave

/-- Store-neutral type of a parameter. -/
inductive DbType where
  | boolean | int32 | int64 | double | string | binary
  deriving DecidableEq, Repr

namespace DbType

def label : DbType → String
  | boolean => "Boolean"
  | int32 => "Int32"
  | int64 => "Int64"
  | double => "Double"
  | string => "String"
  | binary => "Binary"

def all : List DbType := [boolean, int32, int64, double, string, binary]

end DbType

/-- The store's own name of a type together with the neutral type. -/
structure TypeMapping where
  storeType : String
  dbType : DbType
  deriving DecidableEq, Repr

inductive ParameterDirection where
  | input | output
  deriving DecidableEq, Repr

namespace ParameterDirection

def label : ParameterDirection → String
  | input => "Input"
  | output => "Output"

def all : List ParameterDirection := [input, output]

end ParameterDirection

/-- A parameter as the store receives it. -/
structure StoreParameter where
  name : String
  value : Value
  dbType : DbType
  direction : ParameterDirection
  nullable : Bool
  deriving DecidableEq, Repr

/-- A named value and the mapping that encodes it. -/
structure Parameter where
  name : String
  value : Value
  mapping : TypeMapping
  nullable : Bool
  deriving DecidableEq, Repr

/-- The store's parameter for one placeholder; placeholders only carry values in. -/
def TypeMapping.bind (mapping : TypeMapping) (name : String) (value : Value) (nullable : Bool) :
    StoreParameter :=
  ⟨name, value, mapping.dbType, .input, nullable⟩

def Parameter.bind (p : Parameter) : StoreParameter :=
  p.mapping.bind p.name p.value p.nullable

/-- Hands out the parameter names `p0`, `p1`, … of one save. -/
structure NameSupply where
  next : Nat
  deriving DecidableEq, Repr

namespace NameSupply

def fresh : NameSupply := ⟨0⟩

def name (n : Nat) : String :=
  "p" ++ toString n

def take (s : NameSupply) : String × NameSupply :=
  (name s.next, ⟨s.next + 1⟩)

/-- A name if one is wanted; otherwise the supply stays as it is. -/
def takeIf (s : NameSupply) (wanted : Bool) : Option String × NameSupply :=
  if wanted then (some s.take.1, s.take.2) else (none, s)

end NameSupply

end BatchedSave
