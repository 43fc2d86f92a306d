import TableExplorer.Sheet.Column
import TableExplorer.Text.Split

/-!
# Workbooks

A workbook holds one sheet with a styled line of column names. Control characters cannot stand in
a workbook: they are removed from the texts of cells, and a column whose name holds one cannot be
written. Numbers are stored with 16 significant digits, texts up to a length, and any line end
inside a text is a line feed. Columns are as wide as their longest text, within bounds.

`Workbook` is what a reader of the file finds.
-/

namespace TableExplorer.Sheet

/-- What a reader finds in a cell. -/
inductive StoredCell
  | empty
  | bool (b : Bool)
  | int (i : Int)
  | real (d : Double)
  | text (s : String)
  deriving DecidableEq, Repr

/-- A sheet as it is read back: its name, the lines of cells with the column names first, whether
the cells of the first line are styled, and the widths of the columns. -/
structure Workbook where
  sheet : String
  lines : List (List StoredCell)
  styled : List Bool
  widths : List Nat
  deriving DecidableEq, Repr

namespace Workbook

/-! ## Names and texts -/

/-- The most characters of a sheet name. -/
def maxSheetName : Nat := 31

/-- The name of a sheet for which no character is left. -/
def defaultSheetName : String := "Export"

/-- The characters that a sheet name cannot hold. -/
def refusedInName : List Char := ['[', ']', ':', '*', '?', '/', '\\']

/-- The name of the sheet for a table. -/
def sheetName (table : String) : String :=
  let cs := table.toList.map fun c => if refusedInName.contains c then '_' else c
  let name := String.ofList (cs.take maxSheetName)
  if name.isEmpty then defaultSheetName else name

/-- Whether a character cannot stand in a workbook. -/
def isIllegal (c : Char) : Bool :=
  c.toNat ≤ 8 || c.toNat = 0xb || c.toNat = 0xc || (0xe ≤ c.toNat && c.toNat ≤ 0x1f)

/-- A text without the characters that cannot stand in a workbook. -/
def legalText (s : String) : String := String.ofList (s.toList.filter fun c => !isIllegal c)

/-- The most characters of the text of a cell. -/
def maxCellText : Nat := 32767

/-- Line ends of all kinds as line feeds. -/
def unifyLineEnds : List Char → List Char
  | [] => []
  | '\r' :: '\n' :: cs => '\n' :: unifyLineEnds cs
  | c :: cs => (if c = '\r' then '\n' else c) :: unifyLineEnds cs

/-- A text as it is found in a cell; the empty text leaves the cell empty. -/
def storeText (s : String) : StoredCell :=
  let cs := unifyLineEnds (s.toList.take maxCellText)
  if cs.isEmpty then .empty else .text (String.ofList cs)

/-! ## Numbers -/

/-- A number as it is found in a cell: an integer where its digits have neither point nor
exponent. -/
def storeNumber (d : Double) : StoredCell :=
  let text := d.sheetText
  if text.toList.all fun c => c = '-' || Text.isAsciiDigit c then
    match Text.readInt? text with
    | some i => .int i
    | none => .text text
  else match Double.ofText? text with
    | some d => .real d
    | none => .text text

/-- A cell as it is found. -/
def store : Cell → StoredCell
  | .missing => .empty
  | .value .null => .empty
  | .value (.bool b) => .bool b
  | .value (.int i) => storeNumber (.ofInt i)
  | .value (.real .nan) => .empty
  | .value (.real d) => if d.isFinite then storeNumber d else .text d.text
  | .value v => storeText v.display

/-! ## Widths -/

/-- The text by which a cell counts for the width of its column. -/
def measured : Cell → String
  | .missing => "nan"
  | .value v => v.display

def maxWidth : Nat := 60

/-- What a column gets beyond its longest text. -/
def widthMargin : Nat := 2

/-- The width of a column that nothing was written to. -/
def defaultWidth : Nat := 13

def widthOf (c : Column) : Nat :=
  let longest := (c.cells.map fun cell => (measured cell).length).foldl max c.name.length
  min maxWidth (longest + widthMargin)

/-! ## The workbook -/

/-- A cell whose text, if it is one, has lost what cannot stand in a workbook. -/
def legalCell : Cell → Cell
  | .value (.text s) => .value (.text (legalText s))
  | c => c

def legalColumn (c : Column) : Column := { c with cells := c.cells.map legalCell }

/-- The first name that holds a character that cannot stand in a workbook. -/
def illegalName? (names : List String) : Option Fault :=
  ((names.map fun n => String.ofList (n.toList.take maxCellText)).find? fun n =>
    n.toList.any isIllegal).map .illegalName

/-- Why columns cannot be written, if they cannot: the size of the sheet is checked first, then the
names, and the integers that stayed integers come last. -/
def fault? (rows : Nat) (columns : List Column) : Option Fault :=
  if maxSheetRows < rows || maxSheetColumns < columns.length then
    some (.tooLarge rows columns.length)
  else (illegalName? (columns.map Column.name)).or
    ((columns.flatMap Column.cells).findSome? Cell.oversized?)

/-- Typed columns as a workbook. -/
def ofColumns (rows : Nat) (columns : List Column) (table : String) : Workbook :=
  if columns.isEmpty then
    { sheet := sheetName table, lines := [], styled := [false], widths := [defaultWidth] }
  else
    let names := columns.map Column.name
    { sheet := sheetName table
      lines := names.map storeText :: (recordsOf rows (columns.map Column.cells)).map fun cells =>
        cells.map store
      styled := names.map fun _ => true
      widths := columns.map widthOf }

/-- Flat rows of a table as a workbook. -/
def ofRows (rows : List Row) (table : String) : Except Fault Workbook :=
  match columnsOf rows with
  | .error f => .error f
  | .ok columns =>
    let columns := columns.map legalColumn
    match fault? rows.length columns with
    | some f => .error f
    | none => .ok (ofColumns rows.length columns table)

end Workbook

end TableExplorer.Sheet
