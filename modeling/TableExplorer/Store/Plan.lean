import TableExplorer.Request.Basic
import TableExplorer.Store.Reflection

/-!
# Plans

A request is checked against the reflected tables before it runs. The checks go in a fixed order,
and the first that fails is the error: the base table, its selected columns, then for each embedded
relation that it is not embedded already, that a known join leads to it, that its table exists,
that both columns of the join exist, and its selected columns; then the columns and operators of
the predicates, and last the column of the order.
-/

namespace TableExplorer.Store

/-- A column that is read, with its type. -/
abbrev ReadColumn := String × ColumnType

/-- An embedded relation, ready to run. -/
structure EmbeddingPlan where
  relation : String
  hint : String
  foreignColumn : String
  keyType : ColumnType
  columns : List ReadColumn
  deriving DecidableEq, Repr

/-- A predicate whose column is known. -/
structure ConditionPlan where
  column : String
  columnType : ColumnType
  test : Test
  deriving DecidableEq, Repr

/-- A request that has passed all checks. -/
structure Plan where
  table : String
  columns : List ReadColumn
  embeddings : List EmbeddingPlan
  conditions : List ConditionPlan
  order : Option RowOrder
  deriving DecidableEq, Repr

namespace Plan

/-- A step that learns nothing about tables. -/
def known {α : Type} : Except QueryFault α → Reflecting α
  | .ok a => pure a
  | .error f => throw f

/-- Look a list of columns up, in order; no name means all columns. -/
def readColumns (r : Reflection) (source : String) (names : List String) :
    Except QueryFault (List ReadColumn) :=
  if names.isEmpty then .ok r.columns
  else names.mapM fun name => (r.column source name).map fun t => (name, t)

/-- The name of an embedded relation in an error text. -/
def aliasOf (index : Nat) (relation : String) : String :=
  "j" ++ Nat.repr index ++ "_" ++ relation

def checkEmbedding (db : Database) (joins : Registry.KnownJoins) (base : Reflection) (index : Nat)
    (earlier : List Embedding) (e : Embedding) : Reflecting EmbeddingPlan := do
  if earlier.any fun other => other.relation = e.relation then
    throw (.embeddedTwice e.relation base.name)
  match joins.find? base.name e.hint e.relation with
  | none => throw (.noRelationship base.name e.relation e.hint)
  | some join =>
    let related ← reflect db e.relation
    let source := aliasOf index e.relation
    let _ ← known (base.column base.name e.hint)
    let keyType ← known (related.column source join.foreignColumn)
    let columns ← known (readColumns related source e.columns)
    return { relation := e.relation, hint := e.hint, foreignColumn := join.foreignColumn,
             keyType, columns }

/-- Check embedded relations, in order; `earlier` are those before them. -/
def checkEmbeddings (db : Database) (joins : Registry.KnownJoins) (base : Reflection) :
    (earlier : List Embedding) → List Embedding → Reflecting (List EmbeddingPlan)
  | _, [] => pure []
  | earlier, e :: rest => do
    let plan ← checkEmbedding db joins base earlier.length earlier e
    return plan :: (← checkEmbeddings db joins base (earlier ++ [e]) rest)

def checkCondition (base : Reflection) (p : Predicate) : Except QueryFault ConditionPlan :=
  match base.column base.name p.column with
  | .error f => .error f
  | .ok columnType =>
    match p.test with
    | .unsupported operator => .error (.unsupportedOperator operator)
    | test => .ok { column := p.column, columnType, test }

def checkOrder (base : Reflection) : Option RowOrder → Except QueryFault (Option RowOrder)
  | none => .ok none
  | some o => (base.column base.name o.column).map fun _ => some o

/-- Check a request. -/
def ofRequest (db : Database) (joins : Registry.KnownJoins) (r : Request) : Reflecting Plan := do
  let base ← reflect db r.table
  let columns ← known (readColumns base base.name r.projection.columns)
  let embeddings ← checkEmbeddings db joins base [] r.projection.nested
  let conditions ← known (r.predicates.mapM (checkCondition base))
  let order ← known (checkOrder base r.order)
  return { table := base.name, columns, embeddings, conditions, order }

end Plan

end TableExplorer.Store
