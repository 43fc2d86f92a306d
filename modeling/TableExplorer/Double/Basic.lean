/-!
# Double-precision numbers

A finite double is a whole number of units of 2⁻¹⁰⁷⁴, the least positive one. With this scale
rounding, comparison and conversion are exact arithmetic on natural numbers. A quotient is
rounded to 53 significant bits, a half going to the even neighbour; what reaches 2¹⁰²⁴ becomes
infinite.
-/

namespace TableExplorer

/-! ## Rounding of quotients -/

/-- Which neighbour a quotient exactly half way between two integers goes to. -/
inductive Tie
  | toEven
  | up
  deriving DecidableEq, Repr

/-- The integer nearest to `num / den`. -/
def roundQuotient (tie : Tie) (num den : Nat) : Nat :=
  let q := num / den
  let twice := 2 * (num % den)
  if twice < den then q
  else if den < twice then q + 1
  else match tie with
    | .toEven => q + q % 2
    | .up => q + 1

/-! ## The numbers -/

/-- A double-precision number; a finite one is `units` times 2⁻¹⁰⁷⁴ with a sign. -/
inductive Double
  | finite (negative : Bool) (units : Nat)
  | infinite (negative : Bool)
  | nan
  deriving DecidableEq, Repr, Inhabited

namespace Double

def unitsPerOne : Nat := Nat.pow 2 1074

/-- The units of the first power of two beyond the finite numbers. -/
def overflowUnits : Nat := Nat.pow 2 2098

/-- The exponent of the last place of a number of about `units` units: 53 bits are kept. -/
def lastPlace (units : Nat) : Nat := Nat.log2 units - 52

/-- The double nearest to `num / den` units. -/
def ofUnits (negative : Bool) (num den : Nat) : Double :=
  let place := Nat.pow 2 (lastPlace (num / den))
  let units := roundQuotient .toEven num (den * place) * place
  if overflowUnits ≤ units then infinite negative else finite negative units

theorem ofUnits_ne_nan (negative : Bool) (num den : Nat) : ofUnits negative num den ≠ nan := by
  unfold ofUnits
  extract_lets place units
  split <;> simp

def ofInt (i : Int) : Double := ofUnits (i < 0) (i.natAbs * unitsPerOne) 1

/-- Zero, without a minus sign. -/
def zero : Double := finite false 0

def isFinite : Double → Bool
  | finite _ _ => true
  | _ => false

def isZero : Double → Bool
  | finite _ units => units == 0
  | _ => false

/-- The place of a double among the integers and the other doubles, counted in units; infinity
stands beyond every double and NaN has no place. -/
inductive Rank
  | below
  | at (units : Int)
  | above
  deriving DecidableEq, Repr

def Rank.ofInt (i : Int) : Rank := .at (i * (unitsPerOne : Int))

/-- Where a double stands. -/
def rank? : Double → Option Rank
  | finite negative units => some (.at (if negative then -(units : Int) else units))
  | infinite true => some .below
  | infinite false => some .above
  | nan => none

def Rank.compare : Rank → Rank → Ordering
  | .below, .below => .eq
  | .below, _ => .lt
  | _, .below => .gt
  | .above, .above => .eq
  | .above, _ => .gt
  | _, .above => .lt
  | .at a, .at b => if a < b then .lt else if a = b then .eq else .gt

/-- The integer that a double equals, if it is whole. -/
def toInt? : Double → Option Int
  | finite negative units =>
    if units % unitsPerOne = 0 then
      let n : Int := (units / unitsPerOne : Nat)
      some (if negative then -n else n)
    else none
  | _ => none

/-- The whole part of a double, toward zero. -/
def truncate? : Double → Option Int
  | finite negative units =>
    let n : Int := (units / unitsPerOne : Nat)
    some (if negative then -n else n)
  | _ => none

/-- The value of a finite double as a fraction. -/
def toRat? : Double → Option Rat
  | finite negative units =>
    let q : Rat := mkRat units unitsPerOne
    some (if negative then -q else q)
  | _ => none

end Double

end TableExplorer
