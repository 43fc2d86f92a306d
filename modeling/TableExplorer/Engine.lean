import TableExplorer.Registry.Groups
import TableExplorer.Registry.Joins
import TableExplorer.Resolve
import TableExplorer.Sweep

/-!
# The query engine

The engine answers every read against a data source with a uniform result. A query or an export
never fails: whatever goes wrong is the error of the result. Choice lists and descriptions that
cannot be had are empty lists.
-/

namespace TableExplorer

/-- The result of a query or an export. The error, if there is one, is not empty. -/
structure QueryResult where
  rows : List Row := []
  count : Int := 0
  error : Option String := none
  deriving Repr

/-- The error text of a failure without one. -/
def unknownError : String := "Unknown error"

/-- The text of a failure, which is never empty. -/
def Failure.report (f : Failure) : String := if f.text.isEmpty then unknownError else f.text

/-- The result that reports a failed call. -/
def QueryResult.ofFailure (f : Failure) : QueryResult := { error := some f.report }

/-- A data source together with what queries against it always carry. -/
structure Engine (σ : Type) where
  source : DataSource σ
  mandatory : Registry.MandatoryFilters := Registry.mandatoryFilters
  lookups : Registry.Lookups := Registry.lookups

namespace Engine

variable {σ : Type}

/-! ## Queries -/

/-- One page, with the number of all matching rows. Without a table there is nothing to ask. -/
def executeQuery (e : Engine σ) (now : Rat) (q : QueryState) (s : Session σ) :
    QueryResult × Session σ :=
  if q.table.isEmpty then ({}, s)
  else
    match e.source.query (q.pageRequest e.mandatory) s.source with
    | (.error f, state) => (.ofFailure f, { s with source := state })
    | (.ok response, state) =>
      let s := { s with source := state }
      match response.failure? with
      | some text => ({ error := some text }, s)
      | none =>
        match Resolve.rows e.source e.lookups now response.rows q.table s with
        | (.error f, s) => (.ofFailure f, s)
        | (.ok rows, s) => ({ rows, count := response.count.getD 0 }, s)

/-- What an export gives, with the row counts that it announced. -/
structure Export where
  outcome : Except Failure QueryResult
  progress : List Nat

/-- Sweep a query and resolve the rows; an error keeps the rows gathered before it. -/
def sweep (e : Engine σ) (limits : SweepLimits) (now : Rat) (q : QueryState) (s : Session σ) :
    Export × Session σ :=
  let (report, state) := Sweep.ofState e.source.query e.mandatory limits q s.source
  let s := { s with source := state }
  match report.ending with
  | .failed f => ({ outcome := .error f, progress := report.progress }, s)
  | .error text =>
    ({ outcome := .ok { rows := report.rows, count := report.rows.length, error := some text },
       progress := report.progress }, s)
  | .complete =>
    match Resolve.rows e.source e.lookups now report.rows q.table s with
    | (.error f, s) => ({ outcome := .error f, progress := report.progress }, s)
    | (.ok rows, s) =>
      ({ outcome := .ok { rows, count := rows.length }, progress := report.progress }, s)

/-- All rows of a query up to the cap, whatever its page. -/
def fetchAllForExport (e : Engine σ) (now : Rat) (q : QueryState) (s : Session σ) :
    QueryResult × Session σ :=
  if q.table.isEmpty then ({}, s)
  else
    match e.sweep {} now q s with
    | ({ outcome := .ok result, .. }, s) => (result, s)
    | ({ outcome := .error f, .. }, s) => (.ofFailure f, s)

/-! ## Descriptions and choice lists -/

/-- The columns of a table, or nothing where they cannot be read. -/
def fetchColumns (e : Engine σ) (table : String) (s : Session σ) : List ColumnMeta × Session σ :=
  match e.source.describe table s.source with
  | (.ok columns, state) => (columns, { s with source := state })
  | (.error _, state) => ([], { s with source := state })

/-- The option in a row of a lookup. -/
def optionOf (source : Registry.LookupSource) (row : Row) : LookupOption :=
  { id := ((Dict.get? row source.idField).getD .null).display
    label := ((Dict.get? row source.labelField).getD .null).label }

def optionsKey (table column : String) : String := table ++ "." ++ column

/-- The choice list of a column, in the order of its labels; empty for a column without one, and
where it cannot be loaded. -/
def fetchOptions (e : Engine σ) (now : Rat) (table column : String) (s : Session σ) :
    List LookupOption × Session σ :=
  let (cached, cache) := s.cache.getOptions now (optionsKey table column)
  let s := { s with cache }
  match cached with
  | some options => (options, s)
  | none =>
    match e.lookups.ofColumn? table column with
    | none => ([], s)
    | some source =>
      let request : LookupRequest :=
        { table := source.table, idField := source.idField, labelField := source.labelField,
          orderByLabel := true }
      match e.source.lookup request s.source with
      | (.error _, state) => ([], { s with source := state })
      | (.ok rows, state) =>
        let options := rows.map (optionOf source)
        (options, { source := state,
                    cache := s.cache.setOptions now (optionsKey table column) options })

/-- The tables of the source, or nothing where they cannot be listed. -/
def listTables (e : Engine σ) (s : Session σ) : List String × Session σ :=
  match e.source.listTables s.source with
  | (.ok tables, state) => (tables, { s with source := state })
  | (.error _, state) => ([], { s with source := state })

def groupedTables (e : Engine σ) (s : Session σ) : Dict (List String) × Session σ :=
  let (tables, s) := e.listTables s
  (Registry.groupedTables (some tables), s)

end Engine

/-! ## Columns for the client -/

/-- A column with the operators that its type allows, and whether it has a choice list. -/
structure TableColumn where
  description : ColumnMeta
  operators : List Operator
  hasLookup : Bool
  deriving DecidableEq, Repr

/-- The columns of a table as the client shows them. -/
def Engine.tableColumns {σ : Type} (e : Engine σ) (table : String) (s : Session σ) :
    List TableColumn × Session σ :=
  let (columns, s) := e.fetchColumns table s
  (columns.map fun c =>
    { description := c
      operators := (TypeCategory.ofTypeName c.dataType).operators
      hasLookup := (e.lookups.ofColumn? table c.name).isSome }, s)

end TableExplorer
