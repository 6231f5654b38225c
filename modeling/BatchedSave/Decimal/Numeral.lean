import BatchedSave.Decimal.Shortest

/-!
# Written numbers

A numeral keeps a number the way it is written: sign, whole part, digits after the point and
exponent. A layout says how a floating-point number becomes a numeral.
-/
namespace BatchedSave

/-- A number as it is written. `fraction` holds the digits after the point; without a point it is
empty. -/
structure Numeral where
  negative : Bool
  whole : Nat
  fraction : List Nat
  exponent : Option Int
  deriving DecidableEq, Repr

namespace Numeral

def ofInt (n : Int) : Numeral :=
  ⟨n < 0, n.natAbs, [], none⟩

def ofNat (n : Nat) : Numeral :=
  ⟨false, n, [], none⟩

/-- Neither point nor exponent. -/
def isWhole (n : Numeral) : Bool :=
  n.fraction.isEmpty && n.exponent.isNone

/-- The whole number written, if one is; a negative zero is none. -/
def int? (n : Numeral) : Option Int :=
  if !n.isWhole || (n.negative && n.whole == 0) then none
  else if n.negative then some (-n.whole) else some n.whole

def digitText (digits : List Nat) : String :=
  String.join (digits.map fun d => (Nat.digitChar d).toString)

/-- An exponent always shows its sign. -/
def exponentText (e : Int) : String :=
  (if e < 0 then "e-" else "e+") ++ toString e.natAbs

def text (n : Numeral) : String :=
  (if n.negative then "-" else "") ++ toString n.whole
    ++ (if n.fraction.isEmpty then "" else "." ++ digitText n.fraction)
    ++ (n.exponent.map exponentText).getD ""

end Numeral

/-- How a floating-point number is laid out. `positional` tells, by the number of digits before
the point, whether a number is written without exponent; `wholeFraction` is what follows the point
of a whole number. -/
structure Layout where
  tie : Tie
  positional : Int → Bool
  wholeFraction : List Nat

namespace Layout

/-- Decimal digits, the first one first. -/
def digitsOf (n : Nat) : List Nat :=
  (Nat.toDigits 10 n).map fun c => c.toNat - '0'.toNat

def ofDigits (digits : List Nat) : Nat :=
  digits.foldl (fun n d => 10 * n + d) 0

/-- Places the point of a decimal without exponent. -/
def placed (layout : Layout) (negative : Bool) (d : Decimal) : Numeral :=
  if 0 ≤ d.exponent then
    ⟨negative, d.digits * Nat.pow 10 d.exponent.toNat, layout.wholeFraction, none⟩
  else
    let places := (-d.exponent).toNat
    let digits := digitsOf d.digits
    let padded := List.replicate (places - digits.length) 0 ++ digits
    ⟨negative, ofDigits (padded.take (padded.length - places)),
      padded.drop (padded.length - places), none⟩

/-- One digit before the point, the rest behind it. -/
def scientific (negative : Bool) (d : Decimal) : Numeral :=
  let digits := digitsOf d.digits
  ⟨negative, digits.headD 0, digits.tail, some (d.exponent + digits.length - 1)⟩

/-- The numeral of a finite number; there is none for infinities and not-a-number. -/
def numeral? (layout : Layout) (x : Binary64) : Option Numeral :=
  if !x.isFinite then none
  else
    let d := x.shortest layout.tie
    if layout.positional (d.exponent + (digitsOf d.digits).length) then
      some (layout.placed x.negative d)
    else some (scientific x.negative d)

end Layout

end BatchedSave
