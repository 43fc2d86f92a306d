import TableExplorer.Request.Basic

/-!
# Data sources

A data source answers requests, describes columns, serves lookups of labels and lists its tables.
Every call may fail; a failure of the source itself is told apart from any other, because a lookup
of labels that fails in this way is passed over.

A source is given by its four calls on a state of its own, so that a call may depend on what was
asked before.
-/

namespace TableExplorer

/-- What kind of failure a call ends with: a failure of the source, a number beyond its range, a
cell of the wrong kind, a cell or document that cannot be read, or any other by its name. -/
inductive FailureKind
  | source
  | outOfRange
  | wrongType
  | badValue
  | badDocument
  | other (name : String)
  deriving DecidableEq, Repr

/-- A failed call: its kind and its text, which may be empty. -/
structure Failure where
  kind : FailureKind
  text : String
  deriving DecidableEq, Repr

def Failure.ofSource (text : String) : Failure := { kind := .source, text }

/-- The answer to a request. The count is there only if it was asked for. -/
structure Response where
  rows : List Row := []
  count : Option Int := none
  error : Option String := none
  deriving Repr

/-- The error of an answer, if it has a text. -/
def Response.failure? (r : Response) : Option String :=
  match r.error with
  | some text => if text.isEmpty then none else some text
  | none => none

/-- The description of a column: the declared type, and the type without its arguments. -/
structure ColumnMeta where
  name : String
  dataType : String
  format : String
  deriving DecidableEq, Repr

/-- A request for identifiers and labels: all of a table, or those of some identifiers. -/
structure LookupRequest where
  table : String
  idField : String
  labelField : String
  ids : Option (List String) := none
  orderByLabel : Bool := false
  deriving DecidableEq, Repr

/-- The calls of a data source with states in `σ`. -/
structure DataSource (σ : Type) where
  query : Request → σ → Except Failure Response × σ
  describe : String → σ → Except Failure (List ColumnMeta) × σ
  lookup : LookupRequest → σ → Except Failure (List Row) × σ
  listTables : σ → Except Failure (List String) × σ

end TableExplorer
