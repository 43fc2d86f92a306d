import TableExplorer.DataSource.Basic
import TableExplorer.LookupCache
import TableExplorer.Registry.Lookups

/-!
# Labels in place of identifiers

The mapped columns of a row set are resolved one after the other. For each, the distinct
identifiers without a known label are looked up (`pending`), the answer is merged into the cache,
and every identifier with a label that is not empty is replaced by it (`absorb`). The first row
tells which columns there are. Rows and columns stay what they are otherwise: a value without a
label keeps its place, and a lookup in which the source fails changes nothing.
-/

namespace TableExplorer

/-- The state that calls go through: that of the data source, and the cache. -/
structure Session (σ : Type) where
  source : σ
  cache : LookupCache

namespace Resolve

/-- The distinct texts of a column that are not empty, in the order of their first rows. -/
def distinctIds (rows : List Row) (column : String) : List String :=
  (rows.foldl (fun seen row =>
    match Dict.get? row column with
    | some (.text s) => if s.isEmpty || seen.contains s then seen else s :: seen
    | _ => seen) []).reverse

/-- The labels in the rows of a lookup; a later row of an identifier wins. -/
def labelsOf (source : Registry.LookupSource) (rows : List Row) : Labels :=
  Dict.ofList (rows.map fun row =>
    (((Dict.get? row source.idField).getD .null).display,
      ((Dict.get? row source.labelField).getD .null).label))

/-- Put the label of an identifier in its place. -/
def substitute (column : String) (labels : Labels) (row : Row) : Row :=
  match Dict.get? row column with
  | some (.text s) =>
    match Dict.get? labels s with
    | some label => if label.isEmpty then row else Dict.insert row column (.text label)
    | none => row
  | _ => row

/-- The identifiers of a column that must be looked up. -/
def pending (now : Rat) (source : Registry.LookupSource) (ids : List String)
    (cache : LookupCache) : List String × LookupCache :=
  cache.missingIds now source.cacheKey ids

/-- Merge the answer of a lookup, if there is one, and replace the identifiers of a column. -/
def absorb (now : Rat) (source : Registry.LookupSource) (column : String) (rows : List Row)
    (answer : Option (List Row)) (cache : LookupCache) : List Row × LookupCache :=
  let cache := match answer with
    | some fetched => cache.mergeLabels now source.cacheKey (labelsOf source fetched)
    | none => cache
  let (labels, cache) := cache.readLabels now source.cacheKey
  (rows.map (substitute column labels), cache)

/-- The request for the labels of some identifiers. -/
def request (source : Registry.LookupSource) (ids : List String) : LookupRequest :=
  { table := source.table, idField := source.idField, labelField := source.labelField,
    ids := some ids }

variable {σ : Type}

/-- Resolve one column. -/
def column (ds : DataSource σ) (now : Rat) (name : String) (source : Registry.LookupSource)
    (rows : List Row) (s : Session σ) : Except Failure (List Row) × Session σ :=
  let ids := distinctIds rows name
  if ids.isEmpty then (.ok rows, s)
  else
    let (missing, cache) := pending now source ids s.cache
    if missing.isEmpty then
      let (rows, cache) := absorb now source name rows none cache
      (.ok rows, { s with cache })
    else
      match ds.lookup (request source missing) s.source with
      | (.ok fetched, state) =>
        let (rows, cache) := absorb now source name rows (some fetched) cache
        (.ok rows, { source := state, cache })
      | (.error f, state) =>
        match f.kind with
        | .source =>
          let (rows, cache) := absorb now source name rows none cache
          (.ok rows, { source := state, cache })
        | _ => (.error f, { source := state, cache })

/-- Resolve columns one after the other, until a lookup fails for good. -/
def columns (ds : DataSource σ) (now : Rat) :
    Dict Registry.LookupSource → List Row → Session σ → Except Failure (List Row) × Session σ
  | [], rows, s => (.ok rows, s)
  | (name, source) :: rest, rows, s =>
    match column ds now name source rows s with
    | (.ok rows, s) => columns ds now rest rows s
    | (.error f, s) => (.error f, s)

/-- The mapped columns that a row has. -/
def presentColumns (sources : Dict Registry.LookupSource) (row : Row) :
    Dict Registry.LookupSource :=
  sources.filter fun p => Dict.contains row p.1

/-- Resolve the rows of a table. -/
def rows (ds : DataSource σ) (lookups : Registry.Lookups) (now : Rat) (rows : List Row)
    (table : String) (s : Session σ) : Except Failure (List Row) × Session σ :=
  match rows with
  | [] => (.ok rows, s)
  | first :: _ => columns ds now (presentColumns (lookups.ofTable table) first) rows s

end Resolve

end TableExplorer
