/-!
# Binary floating point, by bits

A 64-bit binary floating-point number kept as its bit pattern, and the three fields the pattern
is made of. Every finite number is `± significand · 2 ^ scale`.
-/
namespace BatchedSave

/-- A 64-bit binary floating-point number. The pattern itself is kept, so both zeros and every
payload of not-a-number stay apart. -/
structure Binary64 where
  bits : UInt64
  deriving DecidableEq, Repr

namespace Binary64

def negative (x : Binary64) : Bool :=
  Nat.pow 2 63 ≤ x.bits.toNat

def exponentField (x : Binary64) : Nat :=
  x.bits.toNat / Nat.pow 2 52 % Nat.pow 2 11

def fractionField (x : Binary64) : Nat :=
  x.bits.toNat % Nat.pow 2 52

def isFinite (x : Binary64) : Bool :=
  x.exponentField != Nat.pow 2 11 - 1

def isNaN (x : Binary64) : Bool :=
  !x.isFinite && x.fractionField != 0

/-- The whole number that the power of two multiplies; numbers in the lowest exponent carry no
implicit leading bit. -/
def significand (x : Binary64) : Nat :=
  if x.exponentField = 0 then x.fractionField else Nat.pow 2 52 + x.fractionField

/-- The power of two of the significand's last bit. -/
def scale (x : Binary64) : Int :=
  if x.exponentField = 0 then -1074 else (x.exponentField : Int) - 1075

def isZero (x : Binary64) : Bool :=
  x.significand = 0

/-- The pattern of a machine number. -/
def ofFloat (x : Float) : Binary64 :=
  ⟨x.toBits⟩

def zero : Binary64 :=
  ⟨0⟩

end Binary64

end BatchedSave
