import TableExplorer.Double.Digits
import TableExplorer.Text.Characters

/-!
# The text of a double

A layout record says when digits are written positionally and when with an exponent. The answers
use three: `answer` for JSON, lists and CSV, `sheetCell` for the numbers of a workbook, and
`textColumn` for a number stored in a text column.
-/

namespace TableExplorer.Double

/-- How digits become a text. -/
structure Layout where
  /-- The least exponent written positionally. -/
  low : Int
  /-- The first exponent that is no longer written positionally. -/
  high : Int
  /-- Whether a whole number keeps `.0` in positional notation. -/
  wholePoint : Bool
  /-- Whether a single digit keeps `.0` before an exponent. -/
  exponentPoint : Bool
  deriving DecidableEq, Repr

/-- Numbers in answers: positional from 1e-4 to below 1e16, whole numbers with `.0`. -/
def answer : Layout := { low := -4, high := 16, wholePoint := true, exponentPoint := false }

/-- Numbers in a workbook: the same range, but whole numbers bare. -/
def sheetCell : Layout := { low := -4, high := 16, wholePoint := false, exponentPoint := false }

/-- Numbers in a text column: positional to below 1e15, and always with a point. -/
def textColumn : Layout := { low := -4, high := 15, wholePoint := true, exponentPoint := true }

/-- The exponent with its sign and at least two digits. -/
def exponentText (e : Int) : String :=
  (if e < 0 then "e-" else "e+") ++ Text.padded 2 e.natAbs

/-- Digits laid out as the text of a number without its sign. -/
def Layout.render (l : Layout) (d : Digits) : String :=
  let ds := if d.digits.isEmpty then ['0'] else d.digits
  if l.low ≤ d.exponent && d.exponent < l.high then
    if d.exponent < 0 then
      String.ofList ('0' :: '.' :: List.replicate ((-d.exponent).toNat - 1) '0' ++ ds)
    else
      let whole := d.exponent.toNat + 1
      let filled := ds ++ List.replicate (whole - ds.length) '0'
      let fraction := filled.drop whole
      String.ofList (filled.take whole) ++
        if fraction.isEmpty then (if l.wholePoint then ".0" else "")
        else String.ofList ('.' :: fraction)
  else
    let fraction := ds.drop 1
    String.ofList (ds.take 1) ++
      (if fraction.isEmpty then (if l.exponentPoint then ".0" else "")
       else String.ofList ('.' :: fraction)) ++ exponentText d.exponent

def withSign (negative : Bool) (s : String) : String := if negative then "-" ++ s else s

/-- A double in the fewest digits that read back: `1.0`, `0.1`, `1e+16`, `inf`, `-0.0`. -/
def text : Double → String
  | nan => "nan"
  | infinite negative => withSign negative "inf"
  | finite negative units =>
    withSign negative
      (if units = 0 then "0.0" else answer.render (shortest units))

/-- A double in at most 16 significant digits, as a workbook stores it. -/
def sheetText : Double → String
  | nan => "nan"
  | infinite negative => withSign negative "inf"
  | finite negative units =>
    withSign negative
      (if units = 0 then "0" else sheetCell.render (significant .toEven 16 units))

/-- A double in at most 15 significant digits, as a text column stores it. -/
def columnText : Double → String
  | nan => ""
  | infinite negative => withSign negative "Inf"
  | finite negative units =>
    if units = 0 then "0.0"
    else withSign negative (textColumn.render (significant .up 15 units))

end TableExplorer.Double
