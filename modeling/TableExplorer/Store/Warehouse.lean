import TableExplorer.Store.Run

/-!
# The store as a data source

A warehouse is a database with the memory of its reflected tables and the joins that are known. It
answers the four calls of a data source. A request that is refused, or that the database cannot
run, is answered with an error; a cell that cannot be read, or an integer that does not fit, makes
the call fail. How many values a database binds and how long a pattern it matches is not limited
here.
-/

namespace TableExplorer.Store

/-- A database, what was learned about its tables, and the known joins. -/
structure Warehouse where
  database : Database := {}
  memory : Memory := []
  knownJoins : Registry.KnownJoins := Registry.knownJoins

namespace Warehouse

def clearReflection (w : Warehouse) : Warehouse := { w with memory := [] }

/-- Change the database. -/
def change (w : Warehouse) (f : Database → Database) : Warehouse :=
  { w with database := f w.database }

/-- Run a step that reflects tables. -/
def reflecting {α : Type} (w : Warehouse) (step : Reflecting α) :
    Except QueryFault α × Warehouse :=
  let (result, memory) := step.run w.memory
  (result, { w with memory })

/-! ## Requests -/

/-- Answer a request. -/
def query (r : Request) (w : Warehouse) : Except Failure Response × Warehouse :=
  match w.reflecting (Plan.ofRequest w.database w.knownJoins r) with
  | (.error f, w) => (.ok { error := some f.report }, w)
  | (.ok plan, w) =>
    match Run.plan w.database plan r.range r.countExact with
    | .ok response => (.ok response, w)
    | .error (.reported f) => (.ok { error := some f.report }, w)
    | .error (.failed f) => (.error f, w)

/-! ## Descriptions -/

/-- A cell as the value of a sample row. -/
def sampleValue (c : Cell) : Value := c.toScalar.toValue

/-- Describe the columns of a table by the values of its first row; without a row there is nothing
to tell. -/
def sampleColumns (name : String) (w : Warehouse) : Except Failure (List ColumnMeta) :=
  match w.database.relation name (.tableGone name) with
  | .error f => .error (.ofSource f.report)
  | .ok (columns, rows) =>
    match rows with
    | [] => .ok []
    | row :: _ =>
      .ok (columns.mapIdx fun i c =>
        let guessed := guessType (sampleValue (Run.cellAt row i))
        { name := c.name, dataType := guessed, format := guessed })

/-- Describe the columns of a table by their declared types, or else by a sample row. -/
def describe (name : String) (w : Warehouse) : Except Failure (List ColumnMeta) × Warehouse :=
  match w.database.relation name (.unknownTable name) with
  | .error _ => (w.sampleColumns name, w)
  | .ok (columns, _) =>
    if columns.isEmpty then (w.sampleColumns name, w)
    else (.ok (columns.map fun c => (ColumnType.ofDeclared c.declared).describe c.name), w)

def listTables (w : Warehouse) : Except Failure (List String) × Warehouse :=
  (.ok w.database.names, w)

/-! ## Lookups -/

/-- A lookup is the request for two columns, its identifiers a condition on the first. -/
structure LookupPlan where
  plan : Plan
  condition : List Run.BoundCondition

/-- Check a lookup. -/
def lookupPlan (db : Database) (r : LookupRequest) : Reflecting LookupPlan := do
  let table ← reflect db r.table
  let idType ← Plan.known (table.column table.name r.idField)
  let labelType ← Plan.known (table.column table.name r.labelField)
  return {
    plan := {
      table := table.name, columns := [(r.idField, idType), (r.labelField, labelType)],
      embeddings := [], conditions := [],
      order := if r.orderByLabel then some { column := r.labelField } else none }
    condition := match r.ids with
      | none => []
      | some ids => [{ column := r.idField, test := .oneOf (ids.map .text) }] }

def runLookup (db : Database) (p : LookupPlan) : Except RunFault (List Row) := do
  let placed ← (Run.place db p.plan p.condition).mapError .reported
  (placed.joined none).mapM placed.readRow

/-- Answer a lookup. -/
def lookup (r : LookupRequest) (w : Warehouse) : Except Failure (List Row) × Warehouse :=
  match w.reflecting (lookupPlan w.database r) with
  | (.error f, w) => (.error (.ofSource f.report), w)
  | (.ok p, w) =>
    match runLookup w.database p with
    | .ok rows => (.ok rows, w)
    | .error (.reported f) => (.error (.ofSource f.report), w)
    | .error (.failed f) => (.error f, w)

/-- The warehouse as a data source. -/
def source : DataSource Warehouse := { query, describe, lookup, listTables }

end Warehouse

end TableExplorer.Store
