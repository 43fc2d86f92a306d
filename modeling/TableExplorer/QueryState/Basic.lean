import TableExplorer.Operator

/-!
# Query states

A query state is all that the client edits: the table, the columns to show, filters, joins, the
order and the page. A page has at least one row; this is part of the type. An empty table means
that there is no query.
-/

namespace TableExplorer

/-- One filter row. A filter without a column or an operator is incomplete and filters nothing. -/
structure Filter where
  id : String
  column : String
  operator : Option Operator
  value : String
  deriving DecidableEq, Repr

/-- A relation to embed: the rows of `toTable` that column `fromColumn` points to. -/
structure JoinConfig where
  id : String
  fromTable : String
  fromColumn : String
  toTable : String
  toColumn : String
  selectedColumns : List String
  deriving DecidableEq, Repr

inductive OrderDirection
  | ascending
  | descending
  deriving DecidableEq, Repr

def OrderDirection.name : OrderDirection → String
  | .ascending => "asc"
  | .descending => "desc"

def OrderDirection.ofName? (s : String) : Option OrderDirection :=
  [OrderDirection.ascending, OrderDirection.descending].find? fun d => d.name == s

/-- The number of rows of a page unless the client says otherwise. -/
def defaultPageSize : Nat := 50

theorem defaultPageSize_pos : 0 < defaultPageSize := by decide

/-- Everything that a query depends on. -/
structure QueryState where
  table : String := ""
  selectedColumns : List String := []
  filters : List Filter := []
  joins : List JoinConfig := []
  orderBy : String := ""
  orderDirection : OrderDirection := .ascending
  page : Nat := 0
  pageSize : Nat := defaultPageSize
  pageSize_pos : 0 < pageSize := by decide
  deriving DecidableEq, Repr

/-- The state after switching to another table: all but the page size is forgotten. -/
def QueryState.forTable (state : QueryState) (table : String) : QueryState :=
  { table, pageSize := state.pageSize, pageSize_pos := state.pageSize_pos }

end TableExplorer
