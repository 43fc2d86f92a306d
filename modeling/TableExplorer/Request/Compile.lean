import TableExplorer.QueryState.Basic
import TableExplorer.Request.Basic
import TableExplorer.Text.Split

/-!
# From query states to requests

Page, export and preview are compiled by the same functions and agree on table, projection,
predicates and order. They differ in the range only: page `p` of size `s` holds the rows from
`p * s` to `p * s + s - 1`, an export window is given. Every state compiles; what names something
unknown fails when the request is run.

Some tables are always filtered, ahead of what the user asks for: only the rows in which the given
columns equal the given values are shown.
-/

namespace TableExplorer

/-! ## Mandatory filters -/

namespace Registry

/-- The equalities that the rows of each table must satisfy. -/
abbrev MandatoryFilters := Dict (List (String × Scalar))

def mandatoryFilters : MandatoryFilters := [("leads", [("novo_crm", .bool true)])]

def MandatoryFilters.ofTable (filters : MandatoryFilters) (table : String) :
    List (String × Scalar) :=
  (Dict.get? filters table).getD []

end Registry

/-! ## Parts -/

/-- What an operator asks of its column, given the text of the filter. -/
def Operator.test (op : Operator) (value : String) : Test :=
  match op with
  | .eq => .compare .eq (.text value)
  | .neq => .compare .neq (.text value)
  | .gt => .compare .gt (.text value)
  | .gte => .compare .gte (.text value)
  | .lt => .compare .lt (.text value)
  | .lte => .compare .lte (.text value)
  | .like => .compare .like (.text ("%" ++ value ++ "%"))
  | .ilike => .compare .ilike (.text ("%" ++ value ++ "%"))
  | .isNull => .isNull
  | .isNotNull => .isNotNull
  | .oneOf => .oneOf ((Text.splitList value).map .text)

/-- The predicate of a filter; an incomplete filter has none. -/
def Filter.predicate? (f : Filter) : Option Predicate :=
  if f.column.isEmpty then none
  else f.operator.map fun op => { column := f.column, test := op.test f.value }

/-- The relation that a join embeds. -/
def JoinConfig.embedding (j : JoinConfig) : Embedding :=
  { relation := j.toTable, hint := j.fromColumn, columns := j.selectedColumns }

namespace QueryState

/-- The columns and relations that a state asks for. -/
def projection (s : QueryState) : Projection :=
  { columns := s.selectedColumns, nested := s.joins.map JoinConfig.embedding }

/-- The mandatory equalities of the table, then one predicate for each complete filter. -/
def predicates (mandatory : Registry.MandatoryFilters) (s : QueryState) : List Predicate :=
  (mandatory.ofTable s.table).map (fun p => { column := p.1, test := .compare .eq p.2 }) ++
    s.filters.filterMap Filter.predicate?

/-- The order that a state asks for. -/
def order (s : QueryState) : Option RowOrder :=
  if s.orderBy.isEmpty then none
  else some { column := s.orderBy, ascending := s.orderDirection = .ascending }

/-- The rows of the page of a state. -/
def pageRange (s : QueryState) : RowRange := .window (s.page * s.pageSize) s.pageSize

/-! ## Requests -/

/-- The request for the page of a state, with the number of all matching rows. -/
def pageRequest (mandatory : Registry.MandatoryFilters) (s : QueryState) : Request :=
  { table := s.table, projection := s.projection, predicates := s.predicates mandatory,
    order := s.order, range := some s.pageRange, countExact := true }

/-- The request for a window of the rows of a state, whatever its page. -/
def exportRequest (mandatory : Registry.MandatoryFilters) (s : QueryState) (offset limit : Int) :
    Request :=
  { table := s.table, projection := s.projection, predicates := s.predicates mandatory,
    order := s.order, range := some (.window offset limit), countExact := false }

end QueryState

/-! ## Previews -/

/-- What a user sees of a page request before it runs. -/
structure Preview where
  table : String
  select : String
  predicates : List Predicate
  order : Option RowOrder
  range : RowRange
  deriving DecidableEq, Repr

def QueryState.preview (mandatory : Registry.MandatoryFilters) (s : QueryState) : Preview :=
  { table := s.table, select := s.projection.render, predicates := s.predicates mandatory,
    order := s.order, range := s.pageRange }

def Preview.toValue (p : Preview) : Value :=
  .record [("table", .text p.table), ("select", .text p.select),
    ("predicates", .list (p.predicates.map fun q =>
      .record [("column", .text q.column), ("operator", .text q.test.name),
        ("value", q.test.operand)])),
    ("order", (p.order.map fun o =>
      Value.record [("column", .text o.column), ("ascending", .bool o.ascending)]).getD .null),
    ("range", .list [.int p.range.start, .int p.range.last])]

end TableExplorer
