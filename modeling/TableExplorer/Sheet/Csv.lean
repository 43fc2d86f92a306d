import TableExplorer.Sheet.Column

/-!
# Comma-separated files

A file begins with a byte order mark and has one line per record, the names of the columns first.
A field is quoted where it holds a comma, a quote or a line feed, with its quotes doubled; a line
that consists of one empty field is written as a pair of quotes, to tell it from an empty line.
Missing cells and nulls are empty fields.
-/

namespace TableExplorer.Sheet.Csv

def comma : Char := ','

def quote : Char := '"'

def needsQuotes (field : List Char) : Bool :=
  field.any fun c => c = comma || c = quote || c = '\n'

/-- Each quote doubled. -/
def doubled (field : List Char) : List Char :=
  field.flatMap fun c => if c = quote then [quote, quote] else [c]

def renderField (field : List Char) : List Char :=
  if needsQuotes field then quote :: doubled field ++ [quote] else field

/-- A record as a line without its end. -/
def renderRecord (fields : List (List Char)) : List Char :=
  match fields with
  | [[]] => [quote, quote]
  | fields => List.intercalate [comma] (fields.map renderField)

def cellText : Cell → String
  | .missing => ""
  | .value .null => ""
  | .value (.real .nan) => ""
  | .value v => v.display

def mark : Char := '\ufeff'

def renderLines (records : List (List (List Char))) : List Char :=
  records.flatMap fun r => renderRecord r ++ ['\n']

/-- The lines of typed columns, their names first. -/
def records (count : Nat) (columns : List Column) : List (List (List Char)) :=
  (columns.map fun c => c.name.toList) ::
    (recordsOf count (columns.map Column.cells)).map fun cells =>
      cells.map fun c => (cellText c).toList

/-- Flat rows as a file. -/
def render (rows : List Row) : Except Fault String :=
  (columnsOf rows).map fun columns =>
    String.ofList (mark :: renderLines (records rows.length columns))

end TableExplorer.Sheet.Csv
