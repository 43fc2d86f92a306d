import TableExplorer.Double.Basic

/-!
# Decimal digits of a double

Three ways to choose the digits of a finite positive double: the fewest that read back as the
same double (`shortest`), a given number of significant ones (`significant`), and a given number
of places after the point (`fixed`). All of them compare exact integers; none goes through
floating arithmetic.
-/

namespace TableExplorer.Double

/-- Significant digits, the first not zero, and the exponent of ten of the first one. -/
structure Digits where
  digits : List Char
  exponent : Int
  deriving DecidableEq, Repr

/-- The digits of `n` at the scale of `10 ^ scale`, without zeros at the end. -/
def Digits.ofScaled (n : Nat) (scale : Int) : Digits :=
  let ds := Nat.toDigits 10 n
  { digits := (ds.reverse.dropWhile (· == '0')).reverse,
    exponent := scale + ds.length - 1 }

/-- For a number below one: the number of places after the point before its first digit that is
not zero counts as one less than the answer. At most `fuel` places are tried. -/
def leadingPlaces (units : Nat) : (fuel places : Nat) → Nat
  | 0, places => places
  | fuel + 1, places =>
    if unitsPerOne ≤ units * Nat.pow 10 places then places
    else leadingPlaces units fuel (places + 1)

/-- The exponent of ten of the first significant digit. -/
def magnitude (units : Nat) : Int :=
  let whole := units / unitsPerOne
  if 0 < whole then (Nat.toDigits 10 whole).length - 1
  else -(leadingPlaces units 330 1 : Int)

/-- The grid of the multiples of `10 ^ scale`, as a fraction of units: numerator and
denominator. -/
def gridStep (scale : Int) : Nat × Nat :=
  if 0 ≤ scale then (Nat.pow 10 scale.toNat * unitsPerOne, 1)
  else (unitsPerOne, Nat.pow 10 (-scale).toNat)

/-! ## The fewest digits that read back -/

/-- The numbers that round to a double, in half units; the ends belong to it when its last bit is
zero. -/
structure Basin where
  low : Nat
  high : Nat
  closed : Bool
  deriving DecidableEq, Repr

/-- The basin of a number of units. Below a power of two the neighbour is half as far away. -/
def basin (units : Nat) : Basin :=
  let place := Nat.pow 2 (lastPlace units)
  let below := if units = Nat.pow 2 52 * place && 1 < place then place / 2 else place
  { low := 2 * units - below, high := 2 * units + place, closed := units / place % 2 = 0 }

/-- Whether the point `num / den`, in half units, lies in the basin. -/
def Basin.contains (b : Basin) (num den : Nat) : Bool :=
  if b.closed then b.low * den ≤ num && num ≤ b.high * den
  else b.low * den < num && num < b.high * den

/-- Of the two neighbours of a double on the grid of `10 ^ scale`, the one to write: it must read
back, the nearer goes first, and of two equally near ones the even one. -/
def onGrid? (units : Nat) (b : Basin) (scale : Int) : Option Nat :=
  let (num, den) := gridStep scale
  let lower := units * den / num
  let upper := lower + 1
  let lowerIn := b.contains (2 * lower * num) den
  let upperIn := b.contains (2 * upper * num) den
  let toLower := units * den - lower * num
  let toUpper := upper * num - units * den
  if lowerIn && upperIn then
    if toLower < toUpper then some lower
    else if toUpper < toLower then some upper
    else some (lower + lower % 2)
  else if lowerIn then some lower
  else if upperIn then some upper
  else none

/-- The fewest digits that read back, and among those the nearest. -/
def shortest (units : Nat) : Digits :=
  let b := basin units
  let e := magnitude units
  let found := (List.range 17).findSome? fun (n : Nat) =>
    let scale := e - n
    (onGrid? units b scale).map fun c => Digits.ofScaled c scale
  found.getD { digits := ['0'], exponent := 0 }

/-! ## A given number of digits or places -/

/-- The `count` significant digits nearest to a double. -/
def significant (tie : Tie) (count units : Nat) : Digits :=
  let scale := magnitude units - (count - 1 : Nat)
  let (num, den) := gridStep scale
  Digits.ofScaled (roundQuotient tie (units * den) num) scale

/-- The whole number of `10 ^ -places` nearest to a double. -/
def fixed (places units : Nat) : Nat :=
  roundQuotient .toEven (units * Nat.pow 10 places) unitsPerOne

end TableExplorer.Double
