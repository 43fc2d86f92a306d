import TableExplorer.Double.Basic
import TableExplorer.Text.Characters

/-!
# Decimal numerals and the doubles nearest to them

A `Decimal` is a sign, a natural number and a power of ten. Three spellings of numbers read into
it: the number of a JSON document, the numeric text of a database cell, and the lenient text of a
number that a client sends (`Double.ofText?`), which allows blanks around, digits of any script,
underscores between digits, and the words for infinity and for no number.
-/

namespace TableExplorer

/-- The number `± digits · 10 ^ exponent`. -/
structure Decimal where
  negative : Bool
  digits : Nat
  exponent : Int
  deriving DecidableEq, Repr

namespace Decimal

/-- A numeral by the digits before and after its point and its exponent. -/
def ofParts (negative : Bool) (whole fraction : List Nat) (exponent : Int) : Decimal :=
  { negative, digits := Text.ofDigits (whole ++ fraction),
    exponent := exponent - fraction.length }

/-- The exponent of ten from which on every numeral is infinite as a double. -/
def largestMagnitude : Int := 310

/-- The exponent of ten up to which every numeral is zero as a double. -/
def smallestMagnitude : Int := -330

/-- The nearest double. Numerals whose magnitude alone decides are not expanded. -/
def toDouble (d : Decimal) : Double :=
  if d.digits = 0 then .finite d.negative 0
  else
    let magnitude : Int := d.exponent + (Nat.toDigits 10 d.digits).length
    if largestMagnitude < magnitude then .infinite d.negative
    else if magnitude < smallestMagnitude then .finite d.negative 0
    else if 0 ≤ d.exponent then
      .ofUnits d.negative (d.digits * Nat.pow 10 d.exponent.toNat * Double.unitsPerOne) 1
    else .ofUnits d.negative (d.digits * Double.unitsPerOne) (Nat.pow 10 (-d.exponent).toNat)

theorem toDouble_ne_nan (d : Decimal) : d.toDouble ≠ .nan := by
  unfold toDouble
  extract_lets magnitude
  split
  · simp
  · split
    · simp
    · split
      · simp
      · split
        · exact Double.ofUnits_ne_nan _ _ _
        · exact Double.ofUnits_ne_nan _ _ _

end Decimal

/-! ## Scanning -/

namespace Text

/-- The ASCII digits at the front of a text, by value, and the rest. -/
def spanDigits : List Char → List Nat × List Char
  | [] => ([], [])
  | c :: cs =>
    match asciiDigit? c with
    | none => ([], c :: cs)
    | some d => let (ds, rest) := spanDigits cs; (d :: ds, rest)

/-- A fraction at the front of a text: a point and the digits after it, perhaps none. -/
def spanFraction : List Char → List Nat × List Char
  | '.' :: cs => spanDigits cs
  | cs => ([], cs)

/-- An exponent at the front of a text; without digits after the letter there is none. -/
def spanExponent : List Char → Int × List Char
  | [] => (0, [])
  | c :: cs =>
    if c = 'e' || c = 'E' then
      let (negative, digits) := splitSign cs
      match spanDigits digits with
      | ([], _) => (0, c :: cs)
      | (ds, rest) => (signed negative (ofDigits ds), rest)
    else (0, c :: cs)

/-- An unsigned numeral that must have a digit before or after its point, and the rest. -/
def spanNumeral? (negative : Bool) (cs : List Char) : Option (Decimal × List Char) :=
  let (whole, cs) := spanDigits cs
  let (fraction, cs) := spanFraction cs
  if whole.isEmpty && fraction.isEmpty then none
  else
    let (exponent, cs) := spanExponent cs
    some (.ofParts negative whole fraction exponent, cs)

/-- Replace the decimal digits of every script by ASCII ones. -/
def asciiDigits (cs : List Char) : List Char :=
  cs.map fun c => match digitValue? c with
    | some d => Char.ofNat (48 + d)
    | none => c

/-- Drop the underscores, each of which must stand between two digits. -/
def ungrouped? (afterDigit : Bool) : List Char → Option (List Char)
  | [] => some []
  | '_' :: c :: cs =>
    if afterDigit && isAsciiDigit c then (ungrouped? true cs).map (c :: ·) else none
  | c :: cs => if c = '_' then none else (ungrouped? (isAsciiDigit c) cs).map (c :: ·)

end Text

/-! ## Lenient text -/

namespace Double

/-- The special numbers by their words, in any case. -/
def ofWord? (negative : Bool) (word : String) : Option Double :=
  match Text.asciiLowered word with
  | "inf" | "infinity" => some (infinite negative)
  | "nan" => some nan
  | _ => none

/-- The number that a client's text spells, or `none`. -/
def ofText? (s : String) : Option Double :=
  let cs := Text.asciiDigits (Text.trimBoth Text.isWhiteSpace s.toList)
  match Text.ungrouped? false cs with
  | none => none
  | some cs =>
    let (negative, body) := Text.splitSign cs
    match ofWord? negative (String.ofList body) with
    | some d => some d
    | none =>
      match Text.spanNumeral? negative body with
      | some (d, []) => some d.toDouble
      | _ => none

end Double

end TableExplorer
