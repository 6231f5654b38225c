import BatchedSave.Decimal.Numeral

/-!
# Reading floating-point numbers

A numeral is read by gathering its digits into a 64-bit word and scaling that word by a power of
ten in floating-point arithmetic. Digits that no longer fit are passed over; those before the point
still count for the magnitude. A number beyond the largest finite one is refused.
-/
namespace BatchedSave

namespace Numeral

/-- Appends digits to a word while they fit; tells how many did not. -/
def gather (word : Nat) : List Nat → Nat × Nat
  | [] => (word, 0)
  | d :: digits =>
    if 10 * word + d < UInt64.size then gather (10 * word + d) digits
    else (word, digits.length + 1)

/-- The gathered word and the power of ten that belongs to it. -/
def gathered (n : Numeral) : Nat × Int :=
  let (word, passed) := gather 0 (Layout.digitsOf n.whole)
  let (word', passed') := gather word n.fraction
  (word', (passed : Int) - (n.fraction.length - passed' : Nat))

def tenTo (k : Nat) : Float :=
  Float.ofScientific 1 false k

/-- Divides by `10 ^ k`, in steps where no single power of ten reaches that far. -/
def divided (x : Float) (k : Nat) : Float :=
  if k ≤ 308 then x / tenTo k
  else if x == 0 then x
  else divided (x / tenTo 308) (k - 308)
termination_by k

/-- Scales by `10 ^ k`; a result without end is refused. -/
def scaled? (x : Float) (k : Int) : Option Float :=
  if k < 0 then some (divided x (-k).toNat)
  else if k ≤ 308 then
    let y := x * tenTo k.toNat
    if y.isInf then none else some y
  else if x == 0 then some x
  else none

/-- Exponents beyond this are not computed with. -/
def exponentBound : Int := Nat.pow 2 31

/-- The floating-point number of a numeral. -/
def float? (n : Numeral) : Option Binary64 :=
  let (word, shift) := n.gathered
  let exponent := n.exponent.getD 0
  let magnitude? :=
    if exponentBound ≤ exponent then if word = 0 then some 0 else none
    else if exponent ≤ -exponentBound then some 0
    else scaled? word.toUInt64.toFloat (shift + exponent)
  magnitude?.map fun x => .ofFloat (if n.negative then -x else x)

end Numeral

end BatchedSave
