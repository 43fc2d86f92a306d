import TableExplorer.Double.Decimal
import TableExplorer.Value.Basic

/-!
# Flat rows and typed columns

A table of a file has no place for relations inside a row. They are flattened: a field of an
embedded relation becomes a column whose name is the path to it, joined by dots. Where two paths
give the same name, the first keeps its place and the last its value.

The columns of a file are those of all its rows, in the order in which they first occur. A row
that lacks a column has a missing cell there. The cells of a column are then brought to one type:
integers, doubles or booleans where they all allow it, and otherwise they stay what they are. In a
column of doubles, integers become doubles and nulls become missing.

Every integer that is met on the way to a type is tried as a double. One beyond their range is a
fault, and then there is no file at all.
-/

namespace TableExplorer.Sheet

/-! ## Flat rows -/

/-- The name of a field below a path; the empty path adds nothing. -/
def pathName (path key : String) : String := if path.isEmpty then key else path ++ "." ++ key

mutual

/-- The values below a name that are not records, with the paths to them, depth first. -/
def leavesOf (name : String) : Value → List (String × Value)
  | .record fields => leaves name fields
  | v => [(name, v)]

/-- The values below the fields of a record. -/
def leaves (path : String) : List (String × Value) → List (String × Value)
  | [] => []
  | (key, v) :: fields => leavesOf (pathName path key) v ++ leaves path fields

end

/-- A row without relations, below a path. -/
def flatten (row : Row) (path : String := "") : Row := Dict.ofList (leaves path row)

/-! ## Columns -/

/-- A cell of a column: a value, or nothing because the row lacks the column. -/
inductive Cell
  | missing
  | value (v : Value)
  deriving Repr, Inhabited

/-- The columns of rows, each once, in the order of their first occurrence. -/
def columnNames (rows : List Row) : List String :=
  Dict.keys (Dict.ofList (rows.flatMap fun row => row.map fun p => (p.1, ())))

def cellOf (row : Row) (name : String) : Cell :=
  match Dict.get? row name with
  | some v => .value v
  | none => .missing

/-! ## Faults -/

/-- The most rows, without the column names, and the most columns of a sheet. -/
def maxSheetRows : Nat := 1048576
def maxSheetColumns : Nat := 16384

/-- Why rows cannot be put into a file: an integer is beyond the range of the doubles, there are
more rows or columns than a sheet takes, or a column name cannot stand in one. -/
inductive Fault
  | oversized (value : Int)
  | tooLarge (rows columns : Nat)
  | illegalName (name : String)
  deriving DecidableEq, Repr

def Fault.message : Fault → String
  | oversized _ => "int too large to convert to float"
  | tooLarge rows columns =>
    "This sheet is too large! Your sheet size is: " ++ Nat.repr rows ++ ", " ++
      Nat.repr columns ++ " Max sheet size is: " ++ Nat.repr maxSheetRows ++ ", " ++
      Nat.repr maxSheetColumns
  | illegalName name => name ++ " cannot be used in worksheets."

/-- The fault of a cell that holds an integer beyond the range of the doubles. -/
def Cell.oversized? : Cell → Option Fault
  | .value (.int i) => if (Double.ofInt i).isFinite then none else some (.oversized i)
  | _ => none

/-! ## The type of a column -/

/-- The type that the cells of a column agree on. -/
inductive ColumnType
  | integers
  | doubles
  | booleans
  | mixed
  deriving DecidableEq, Repr

/-- What has been seen in a column. A large integer is one beyond the signed 64-bit range. -/
structure Seen where
  null : Bool := false
  missing : Bool := false
  boolean : Bool := false
  double : Bool := false
  integer : Bool := false
  negative : Bool := false
  large : Bool := false
  other : Bool := false
  deriving DecidableEq, Repr

/-- The least and the greatest integers of 64 bits, signed and unsigned. -/
def minSigned : Int := -9223372036854775808
def maxSigned : Int := 9223372036854775807
def maxUnsigned : Int := 18446744073709551615

/-- Take an integer into account. Its range counts only as long as no null was seen. -/
def Seen.addInteger (s : Seen) (i : Int) : Seen :=
  let s := { s with integer := true }
  if s.null then s
  else
    let s := { s with
      negative := s.negative || (minSigned ≤ i && i < 0)
      large := s.large || (maxSigned < i && i ≤ maxUnsigned) }
    { s with other := (s.negative && s.large) || maxUnsigned < i || i < minSigned }

/-- Take a cell into account. -/
def Seen.add (s : Seen) : Cell → Seen
  | .missing => { s with missing := true }
  | .value .null => { s with null := true }
  | .value (.bool _) => { s with boolean := true }
  | .value (.real .nan) => { s with missing := true }
  | .value (.real _) => { s with double := true }
  | .value (.int i) => s.addInteger i
  | .value _ => { s with other := true }

/-- What is seen in a column, up to the first cell that leaves it mixed. -/
def Seen.ofCells (s : Seen) : List Cell → Except Fault Seen
  | [] => .ok s
  | c :: cs =>
    match c.oversized? with
    | some f => .error f
    | none =>
      let s := s.add c
      if s.other then .ok s else ofCells s cs

/-- The type that fits what was seen. -/
def Seen.columnType (s : Seen) : ColumnType :=
  if s.other then .mixed
  else if s.boolean then
    if s.null || s.missing || s.double || s.integer then .mixed else .booleans
  else if s.null || s.missing then
    if s.double || s.integer || s.missing then .doubles else .mixed
  else if s.double then .doubles
  else if s.integer then .integers
  else .mixed

def columnType (cells : List Cell) : Except Fault ColumnType :=
  (Seen.ofCells {} cells).map Seen.columnType

/-! ## Columns -/

structure Column where
  name : String
  cells : List Cell
  deriving Repr, Inhabited

/-- A cell of a column of doubles. -/
def Cell.toDouble : Cell → Cell
  | .value .null => .missing
  | .value (.int i) => .value (.real (.ofInt i))
  | .value (.real .nan) => .missing
  | c => c

/-- A cell brought to the type of its column. -/
def ColumnType.cast (t : ColumnType) (c : Cell) : Cell :=
  match t with
  | .doubles => c.toDouble
  | _ => c

/-- Bring the cells of a column to its type. -/
def typedCells (cells : List Cell) : Except Fault (List Cell) :=
  (columnType cells).map fun t => cells.map t.cast

/-- The column of a name, with its cells typed. -/
def columnOf (rows : List Row) (name : String) : Except Fault Column :=
  (typedCells (rows.map fun row => cellOf row name)).map fun cells => { name, cells }

/-- The typed columns of flat rows. -/
def columnsOf (rows : List Row) : Except Fault (List Column) :=
  (columnNames rows).mapM (columnOf rows)

/-- The records of `count` rows: each takes the next cell of every column. -/
def recordsOf : (count : Nat) → (columns : List (List Cell)) → List (List Cell)
  | 0, _ => []
  | count + 1, columns =>
    columns.map (fun cells => cells.headD .missing) :: recordsOf count (columns.map List.tail)

end TableExplorer.Sheet
