import BatchedSave.Decimal.Binary64

/-!
# The shortest decimal of a binary number

All reals between the midpoints to a number's two neighbours round to that number. Among the
decimals in that interval the ones with the fewest digits are wanted, and of those the nearest.
Grids of coarser powers of ten are tried first, so the first grid with a point inside the interval
holds the shortest decimal. All comparisons are between whole numbers.
-/
namespace BatchedSave

/-- The decimal `digits · 10 ^ exponent`. -/
structure Decimal where
  digits : Nat
  exponent : Int
  deriving DecidableEq, Repr

/-- Which of two equally near decimals is taken. -/
inductive Tie where
  | up | toEven
  deriving DecidableEq, Repr

namespace Binary64

/-- Ends of the interval that rounds to `x`, in quarters of the last bit. Below a power of two the
lower neighbour is half as far away. -/
def intervalQuarters (x : Binary64) : Nat × Nat :=
  let m := x.significand
  (4 * m - (if m = Nat.pow 2 52 ∧ -1074 < x.scale then 1 else 2), 4 * m + 2)

/-- The interval and the value on the grid of multiples of `10 ^ k`: numerators of the lower end,
the value and the upper end, and their common denominator. -/
def onGrid (x : Binary64) (k : Int) : Nat × Nat × Nat × Nat :=
  let quarter := x.scale - 2
  let factor := Nat.pow 2 quarter.toNat * Nat.pow 10 (-k).toNat
  let ends := x.intervalQuarters
  (ends.1 * factor, 4 * x.significand * factor, ends.2 * factor,
    Nat.pow 2 (-quarter).toNat * Nat.pow 10 k.toNat)

/-- Whether `point / 1` on a grid lies between two ends over `den`; the ends themselves belong to
the interval when the significand is even. -/
def within (closed : Bool) (low high den point : Nat) : Bool :=
  if closed then low ≤ point * den && point * den ≤ high
  else low < point * den && point * den < high

/-- The nearest multiple of `10 ^ k` in the interval, if there is one. Only the two multiples
around the value can be nearest. -/
def hit? (tie : Tie) (x : Binary64) (k : Int) : Option Nat :=
  let (low, value, high, den) := x.onGrid k
  let inside := within (x.significand % 2 == 0) low high den
  let below := value / den
  match inside below, inside (below + 1) with
  | true, false => some below
  | false, true => some (below + 1)
  | false, false => none
  | true, true =>
    match compare (2 * (value - below * den)) den, tie with
    | .lt, _ => some below
    | .gt, _ => some (below + 1)
    | .eq, .up => some (below + 1)
    | .eq, .toEven => some (below + below % 2)

/-- Tries `tries + 1` grids downward from `10 ^ k`. -/
def searchDown (tie : Tie) (x : Binary64) (k : Int) : Nat → Decimal
  | 0 => ⟨(x.hit? tie k).getD 0, k⟩
  | tries + 1 =>
    match x.hit? tie k with
    | some digits => ⟨digits, k⟩
    | none => searchDown tie x (k - 1) tries

/-- A power of ten that exceeds the value, with one to spare: three tenths of a decimal digit for
each bit. -/
def topExponent (x : Binary64) : Int :=
  ((x.significand.log2 + 1 : Nat) + x.scale) * 30103 / 100000 + 1

/-- The shortest decimal that rounds to the magnitude of a finite number, and the nearest of the
shortest. Seventeen digits always suffice, so twenty grids are enough. -/
def shortest (tie : Tie) (x : Binary64) : Decimal :=
  if x.isZero then ⟨0, 0⟩ else searchDown tie x x.topExponent 20

end Binary64

end BatchedSave
