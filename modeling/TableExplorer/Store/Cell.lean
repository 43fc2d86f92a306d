import TableExplorer.Double.Decimal
import TableExplorer.Text.Utf
import TableExplorer.Value.Basic

/-!
# Cells of the store

A cell holds null, an integer of 64 bits, a double, a text or a blob. Cells are ordered: null
comes first, then the numbers by value, then the texts by code point, then the blobs by octet.

A cell may be like a pattern. In a pattern a percent sign stands for any run of characters and an
underscore for one character. The case of ASCII letters does not matter, and nothing escapes the
two. A text counts up to its first NUL.
-/

namespace TableExplorer.Store

/-- What a column of a row holds. -/
inductive Cell
  | null
  | int (i : Int)
  | real (d : Double)
  | text (s : String)
  | blob (octets : List UInt8)
  deriving DecidableEq, Repr, Inhabited

/-- The least integer of a cell: integers have 64 bits and a sign. -/
def minInteger : Int := -9223372036854775808

def maxInteger : Int := 9223372036854775807

def fits (i : Int) : Bool := minInteger ≤ i && i ≤ maxInteger

namespace Cell

/-- The cell of a double; what is no number is null. -/
def ofDouble : Double → Cell
  | .nan => null
  | d => real d

/-- The cell that a scalar is bound as; truth is one and falsehood zero. -/
def ofScalar : Scalar → Cell
  | .null => null
  | .bool b => int (if b then 1 else 0)
  | .int i => int i
  | .real d => ofDouble d
  | .text s => text s
  | .octets bs => blob bs

def toScalar : Cell → Scalar
  | null => .null
  | int i => .int i
  | real d => .real d
  | text s => .text s
  | blob bs => .octets bs

/-! ## Order -/

/-- The kinds of cells, in order: null, number, text, blob. -/
def kind : Cell → Nat
  | null => 0
  | int _ => 1
  | real _ => 1
  | text _ => 2
  | blob _ => 3

/-- The place of a number. -/
def rank : Cell → Double.Rank
  | int i => .ofInt i
  | real d => d.rank?.getD (.at 0)
  | _ => .at 0

/-- The order of lists whose members have one. -/
def compareLists : List Nat → List Nat → Ordering
  | [], [] => .eq
  | [], _ :: _ => .lt
  | _ :: _, [] => .gt
  | a :: as, b :: bs => if a < b then .lt else if b < a then .gt else compareLists as bs

/-- The code points of a text, or the octets of a blob. -/
def units : Cell → List Nat
  | text s => s.toList.map Char.toNat
  | blob bs => bs.map UInt8.toNat
  | _ => []

/-- The order of two cells. -/
def compare (a b : Cell) : Ordering :=
  if a.kind < b.kind then .lt
  else if b.kind < a.kind then .gt
  else (a.rank.compare b.rank).then (compareLists a.units b.units)

end Cell

/-! ## Patterns -/

/-- Whether a text matches a pattern. -/
def matchesPattern : (pattern text : List Char) → Bool
  | [], [] => true
  | [], _ :: _ => false
  | p :: ps, text =>
    if p = '%' then
      matchesPattern ps text ||
        match text with
        | [] => false
        | _ :: rest => matchesPattern (p :: ps) rest
    else
      match text with
      | [] => false
      | c :: rest =>
        (p = '_' || Text.asciiLower p = Text.asciiLower c) && matchesPattern ps rest
termination_by pattern text => (pattern.length, text.length)

/-- The text of a cell for a pattern; null has none. -/
def Cell.patternText? : Cell → Option String
  | .null => none
  | .int i => some (Text.ofInt i)
  | .real d => some d.columnText
  | .text s => some s
  | .blob octets => some (Text.lossyUtf8 octets)

/-- The characters before the first NUL. -/
def untilNul (s : String) : List Char := s.toList.takeWhile fun c => c.toNat != 0

/-- The size, in octets, of the longest pattern that is matched. -/
def maxPatternSize : Nat := 50000

/-- Whether a cell is like a pattern; unknown where one of them is null. -/
def Cell.isLike (c pattern : Cell) : Option Bool :=
  match c.patternText?, pattern.patternText? with
  | some t, some p => some (matchesPattern (untilNul p) (untilNul t))
  | _, _ => none

end TableExplorer.Store
