import TableExplorer.Engine
import TableExplorer.Sheet.Csv
import TableExplorer.Sheet.Workbook

/-!
# Export files

All rows of a query as a file for download, in one of two formats. A query with an error gives no
file: the error says that the export failed, and why. Rows that do not fit into a file give none
either.
-/

namespace TableExplorer

inductive ExportFormat
  | csv
  | xlsx
  deriving DecidableEq, Repr

/-- The extension of a file, which is also the name of the format on the wire. -/
def ExportFormat.name : ExportFormat → String
  | .csv => "csv"
  | .xlsx => "xlsx"

def ExportFormat.ofName? (s : String) : Option ExportFormat :=
  [ExportFormat.csv, ExportFormat.xlsx].find? fun f => f.name == s

def ExportFormat.mediaType : ExportFormat → String
  | .csv => "text/csv; charset=utf-8"
  | .xlsx => "application/vnd.openxmlformats-officedocument.spreadsheetml.sheet"

/-- What a file holds. -/
inductive ExportContent
  | text (s : String)
  | workbook (w : Sheet.Workbook)
  deriving DecidableEq, Repr

structure ExportFile where
  name : String
  mediaType : String
  content : ExportContent
  deriving DecidableEq, Repr

inductive ExportFault
  | query (error : String)
  | unwritable (fault : Sheet.Fault)
  deriving DecidableEq, Repr

def ExportFault.message : ExportFault → String
  | query error => "Export failed: " ++ error
  | unwritable fault => fault.message

def ExportFormat.render (format : ExportFormat) (rows : List Row) (table : String) :
    Except ExportFault ExportContent :=
  match format with
  | .csv => ((Sheet.Csv.render rows).map .text).mapError .unwritable
  | .xlsx => ((Sheet.Workbook.ofRows rows table).map .workbook).mapError .unwritable

/-- The name of a file: table, day and extension. -/
def ExportFormat.fileName (format : ExportFormat) (table today : String) : String :=
  table ++ "_" ++ today ++ "." ++ format.name

def Engine.exportFile {σ : Type} (e : Engine σ) (now : Rat) (today : String) (q : QueryState)
    (format : ExportFormat) (s : Session σ) : Except ExportFault ExportFile × Session σ :=
  let (result, s) := e.fetchAllForExport now q s
  match result.error with
  | some text => (.error (.query text), s)
  | none =>
    ((format.render (result.rows.map fun row => Sheet.flatten row) q.table).map fun content =>
      { name := format.fileName q.table today, mediaType := format.mediaType, content }, s)

end TableExplorer
