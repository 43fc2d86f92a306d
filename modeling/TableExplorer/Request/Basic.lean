import TableExplorer.Value.Basic

/-!
# Requests to the data source

A request is a compiled query: a table, a projection of its columns with relations embedded into
each row, predicates that must all hold, an order, and a range of rows.
-/

namespace TableExplorer

/-! ## Predicates -/

inductive Comparison
  | eq
  | neq
  | gt
  | gte
  | lt
  | lte
  | like
  | ilike
  deriving DecidableEq, Repr

def Comparison.name : Comparison → String
  | eq => "eq"
  | neq => "neq"
  | gt => "gt"
  | gte => "gte"
  | lt => "lt"
  | lte => "lte"
  | like => "like"
  | ilike => "ilike"

/-- What a predicate asks of its column. -/
inductive Test
  | compare (comparison : Comparison) (operand : Scalar)
  | isNull
  | isNotNull
  | oneOf (members : List Scalar)
  | unsupported (operator : String)
  deriving DecidableEq, Repr

/-- The name of a test in a request. -/
def Test.name : Test → String
  | compare c _ => c.name
  | isNull => "is"
  | isNotNull => "not_is"
  | oneOf _ => "in"
  | unsupported operator => operator

/-- What a test compares with, as a value. -/
def Test.operand : Test → Value
  | compare _ s => s.toValue
  | oneOf members => .list (members.map Scalar.toValue)
  | _ => .null

/-- The test of an operator by its name in a request. -/
def Test.ofName (name : String) (operand : Scalar) (members : List Scalar) : Test :=
  let comparisons : List Comparison := [.eq, .neq, .gt, .gte, .lt, .lte, .like, .ilike]
  match comparisons.find? fun c => c.name == name with
  | some c => .compare c operand
  | none =>
    if name = "is" then .isNull
    else if name = "not_is" then .isNotNull
    else if name = "in" then .oneOf members
    else .unsupported name

/-- A condition on one column. -/
structure Predicate where
  column : String
  test : Test
  deriving DecidableEq, Repr

/-! ## Projections -/

/-- A relation embedded into each row: the row of `relation` that the base column `hint` leads to,
with the given columns, or all of them if none is given. -/
structure Embedding where
  relation : String
  hint : String
  columns : List String := []
  deriving DecidableEq, Repr

/-- A list of columns, where none means all. -/
def renderColumns (columns : List String) : String :=
  if columns.isEmpty then "*" else String.intercalate "," columns

/-- An embedded relation in a select text. -/
def Embedding.render (e : Embedding) : String :=
  e.relation ++ "!" ++ e.hint ++ "(" ++ renderColumns e.columns ++ ")"

/-- The columns of a row, where none means all, and the relations embedded into it. -/
structure Projection where
  columns : List String := []
  nested : List Embedding := []
  deriving DecidableEq, Repr

/-- Whether all base columns are asked for. -/
def Projection.allColumns (p : Projection) : Bool := p.columns.isEmpty

/-- The select text of a projection, such as `*,sellers!seller_id(name)`. -/
def Projection.render (p : Projection) : String :=
  String.intercalate "," (renderColumns p.columns :: p.nested.map Embedding.render)

/-! ## Requests -/

structure RowOrder where
  column : String
  ascending : Bool := true
  deriving DecidableEq, Repr

/-- The rows from `start` to `last`, both included. -/
structure RowRange where
  start : Int
  last : Int
  deriving DecidableEq, Repr

/-- The number of rows of a range. -/
def RowRange.limit (r : RowRange) : Int := r.last - r.start + 1

/-- The range of `limit` rows from `start` on. -/
def RowRange.window (start limit : Int) : RowRange := { start, last := start + limit - 1 }

theorem RowRange.limit_window (start limit : Int) : (window start limit).limit = limit := by
  simp only [RowRange.limit, window]
  omega

/-- A compiled query. -/
structure Request where
  table : String
  projection : Projection := {}
  predicates : List Predicate := []
  order : Option RowOrder := none
  range : Option RowRange := none
  countExact : Bool := false
  deriving DecidableEq, Repr

end TableExplorer
