import TableExplorer.Request.Basic
import TableExplorer.Store.Cell

/-!
# Affinities and conditions

The declared type of a column gives it an affinity: a form into which the store brings its cells
when they are written, and the values that they are compared with. A text that looks like a number
becomes one where numbers are preferred, a whole double becomes an integer, and a number becomes
its digits where texts are preferred.

Whether a cell meets a test is true, false or unknown; only what is true selects a row. A
comparison with null is unknown, and the value that a cell is compared with is first brought into
the form that the column prefers.
-/

namespace TableExplorer.Store

/-- The preferred form of the cells of a column. -/
inductive Affinity
  | none
  | text
  | numeric
  | integer
  | real
  deriving DecidableEq, Repr

/-- Whether a word occurs in one of the texts of a list. -/
def mentions (typeName : String) (words : List String) : Bool :=
  words.any fun w => Text.occursIn w typeName

/-- The affinity of a declared type: the first rule that applies counts. -/
def Affinity.ofDeclared (declared : String) : Affinity :=
  let t := Text.asciiLowered declared
  if mentions t ["int"] then .integer
  else if mentions t ["char", "clob", "text"] then .text
  else if t.isEmpty || mentions t ["blob"] then .none
  else if mentions t ["real", "floa", "doub"] then .real
  else .numeric

def Affinity.isNumeric : Affinity → Bool
  | .numeric => true
  | .integer => true
  | .real => true
  | _ => false

/-! ## Texts that look like numbers -/

/-- The white space around a number. -/
def isNumberSpace (c : Char) : Bool :=
  c = ' ' || c = '\t' || c = '\n' || c.toNat = 0xb || c.toNat = 0xc || c = '\r'

/-- The number that a text looks like: an integer if it is written and fits as one, else a
double. -/
def numberOfText? (s : String) : Option Cell :=
  let (negative, body) := Text.splitSign (Text.trimBoth isNumberSpace s.toList)
  match Text.spanNumeral? negative body with
  | some (d, []) =>
    if body.all Text.isAsciiDigit then
      let i := Text.signed negative d.digits
      if fits i then some (.int i) else some (.ofDouble d.toDouble)
    else some (.ofDouble d.toDouble)
  | _ => none

/-- A double as an integer where it is whole and well inside the range. -/
def wholeReal (d : Double) : Cell :=
  match d.toInt? with
  | some i => if minInteger < i ∧ i < maxInteger then .int i else .real d
  | none => .real d

/-- A number as a text; texts and blobs stay. -/
def Cell.stringified : Cell → Cell
  | .int i => .text (Text.ofInt i)
  | .real d => .text d.columnText
  | c => c

/-- A text that looks like a number as that number. -/
def Cell.numeralized : Cell → Cell
  | .text s => (numberOfText? s).getD (.text s)
  | c => c

/-! ## Storing and comparing -/

/-- A whole double as an integer. -/
def Cell.integralized : Cell → Cell
  | .real d => wholeReal d
  | c => c

/-- An integer as a double. -/
def Cell.realized : Cell → Cell
  | .int i => .ofDouble (.ofInt i)
  | c => c

/-- A cell in the form in which a column keeps it. -/
def Affinity.store (a : Affinity) (c : Cell) : Cell :=
  match a with
  | .none => c
  | .text => c.stringified
  | .numeric => c.numeralized.integralized
  | .integer => c.numeralized.integralized
  | .real => c.numeralized.realized

/-- A value in the form in which it is compared with a column. -/
def Affinity.operand (a : Affinity) (c : Cell) : Cell :=
  match a with
  | .none => c
  | .text => c.stringified
  | _ => c.numeralized

/-- The form in which the cells of two columns are compared with each other: as numbers if one of
the columns prefers numbers, else as they are. -/
def Affinity.ofPair (a b : Affinity) : Affinity :=
  if a.isNumeric || b.isNumeric then .numeric else .none

/-! ## Conditions -/

/-- A test whose values are bound. -/
inductive BoundTest
  | compare (comparison : Comparison) (operand : Cell)
  | isNull
  | isNotNull
  | oneOf (members : List Cell)
  deriving DecidableEq, Repr

/-- Whether two cells are in a given order; unknown where one of them is null. -/
def Cell.related (accepts : Ordering → Bool) (a b : Cell) : Option Bool :=
  if a = .null ∨ b = .null then none else some (accepts (a.compare b))

/-- Whether a cell of a column with an affinity compares with a value as asked. -/
def Cell.satisfies (cell : Cell) (c : Comparison) (a : Affinity) (operand : Cell) : Option Bool :=
  match c with
  | .eq => cell.related (· == .eq) (a.operand operand)
  | .neq => cell.related (· != .eq) (a.operand operand)
  | .gt => cell.related (· == .gt) (a.operand operand)
  | .gte => cell.related (· != .lt) (a.operand operand)
  | .lt => cell.related (· == .lt) (a.operand operand)
  | .lte => cell.related (· != .gt) (a.operand operand)
  | .like => cell.isLike operand
  | .ilike => cell.isLike operand

/-- Whether a cell meets a test for certain. -/
def BoundTest.selects (t : BoundTest) (a : Affinity) (cell : Cell) : Bool :=
  match t with
  | .compare c operand => cell.satisfies c a operand == some true
  | .isNull => cell == .null
  | .isNotNull => cell != .null
  | .oneOf members => members.any fun m => cell.satisfies .eq a m == some true

end TableExplorer.Store
