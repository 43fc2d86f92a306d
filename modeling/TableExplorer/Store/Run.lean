import TableExplorer.Store.Affinity
import TableExplorer.Store.Plan

/-!
# Running a plan

The rows of the base table that meet all conditions are joined with the rows of each embedded
relation that their hint leads to, or with none; the result is brought into order and cut to the
range. Then every row is read by the types of its columns and put into shape: the base columns by
name, and each embedded relation as a record, or null where there is no related row.

The count is the number of base rows that meet the conditions, whatever the range.
-/

namespace TableExplorer.Store

/-- How a run goes wrong: with a fault that is reported in the answer, or with a failure of the
call. -/
inductive RunFault
  | reported (fault : QueryFault)
  | failed (failure : Failure)
  deriving DecidableEq, Repr

namespace Run

/-! ## Tables at hand -/

/-- The columns and rows of a table at the time of the run. -/
structure Live where
  columns : List ColumnDef
  rows : List (List Cell)
  deriving Repr

/-- Fetch a table. -/
def live (db : Database) (name : String) : Except QueryFault Live :=
  (db.relation name (.tableGone name)).map fun (columns, rows) => { columns, rows }

/-- The place and the affinity of a column. -/
def Live.place (t : Live) (source name : String) : Except QueryFault (Nat × Affinity) :=
  match t.columns.findIdx? fun c => sameName c.name name with
  | some i => .ok (i, ((t.columns[i]?).map ColumnDef.affinity).getD .none)
  | none => .error (.columnGone source name)

def cellAt (row : List Cell) (place : Nat) : Cell := (row[place]?).getD .null

/-! ## Conditions -/

/-- Bind the values of a test. The members of a list are bound as they are. -/
def bindTest (t : ColumnType) : Test → Except ColumnType.BindFault BoundTest
  | .compare c operand => (t.bind operand).map (.compare c)
  | .isNull => .ok .isNull
  | .isNotNull => .ok .isNotNull
  | .oneOf members => .ok (.oneOf (members.map Cell.ofScalar))
  | .unsupported _ => .ok .isNull

/-- A condition with its values bound. -/
structure BoundCondition where
  column : String
  test : BoundTest
  deriving DecidableEq, Repr

def bindCondition (c : ConditionPlan) : Except QueryFault BoundCondition :=
  match bindTest c.columnType c.test with
  | .ok test => .ok { column := c.column, test }
  | .error f => .error (.unbindable f)

/-- A condition on the cell at a place. -/
structure PlacedCondition where
  place : Nat
  affinity : Affinity
  test : BoundTest
  deriving DecidableEq, Repr

/-- Find the column of a condition. -/
def placeCondition (t : Live) (source : String) (c : BoundCondition) :
    Except QueryFault PlacedCondition :=
  (t.place source c.column).map fun (place, affinity) => { place, affinity, test := c.test }

/-- Whether a row meets all conditions. -/
def selects (conditions : List PlacedCondition) (row : List Cell) : Bool :=
  conditions.all fun c => c.test.selects c.affinity (cellAt row c.place)

/-! ## Joins -/

/-- An embedded relation with its rows at hand, and where its columns are. -/
structure PlacedEmbedding where
  plan : EmbeddingPlan
  hintPlace : Nat
  keyPlace : Nat
  affinity : Affinity
  places : List Nat
  rows : List (List Cell)
  deriving Repr

/-- The order of two rows by their cells at some places, of which the first that differ decide. -/
def compareAt : (places : List Nat) → (a b : List Cell) → Ordering
  | [], _, _ => .eq
  | p :: ps, a, b => ((cellAt a p).compare (cellAt b p)).then (compareAt ps a b)

/-- Whether the rows of a related table are found by way of an index over the key: it holds the
keys as they are stored, so it serves where they are compared as they are stored. -/
def isIndexed (pair key : Affinity) : Bool := !pair.isNumeric || key.isNumeric

/-- The rows of a related table in the order in which a join meets them: where there is an index,
by the key and then by the other columns that are read; else as they came. -/
def meetingOrder (indexed : Bool) (keyPlace : Nat) (places : List Nat) (t : Live) :
    List (List Cell) :=
  if indexed then
    let others := (List.range t.columns.length).filter fun i => i != keyPlace && places.contains i
    t.rows.mergeSort fun a b => compareAt (keyPlace :: others) a b != .gt
  else t.rows

/-- Find the columns of an embedded relation. -/
def placeEmbedding (base : Live) (table : String) (index : Nat) (related : Live)
    (e : EmbeddingPlan) : Except QueryFault PlacedEmbedding := do
  let source := Plan.aliasOf index e.relation
  let places ← e.columns.mapM fun c => (related.place source c.1).map Prod.fst
  let (keyPlace, keyAffinity) ← related.place source e.foreignColumn
  let (hintPlace, hintAffinity) ← base.place table e.hint
  let affinity := Affinity.ofPair hintAffinity keyAffinity
  return { plan := e, hintPlace, keyPlace, affinity, places,
           rows := meetingOrder (isIndexed affinity keyAffinity) keyPlace places related }

/-- Find the columns of embedded relations, counted from `index` on. -/
def placeEmbeddings (base : Live) (table : String) :
    (index : Nat) → List (EmbeddingPlan × Live) → Except QueryFault (List PlacedEmbedding)
  | _, [] => .ok []
  | index, (e, related) :: rest => do
    let placed ← placeEmbedding base table index related e
    return placed :: (← placeEmbeddings base table (index + 1) rest)

/-- Whether a related row belongs to a base row: the key equals the hint, and neither is null. -/
def PlacedEmbedding.joins (e : PlacedEmbedding) (base related : List Cell) : Bool :=
  (e.affinity.operand (cellAt base e.hintPlace)).related (· == .eq)
    (e.affinity.operand (cellAt related e.keyPlace)) == some true

/-- The related rows of a base row; where there are none, one that is absent. -/
def PlacedEmbedding.partners (e : PlacedEmbedding) (base : List Cell) :
    List (Option (List Cell)) :=
  match e.rows.filter (e.joins base) with
  | [] => [none]
  | found => found.map some

/-- A base row with a related row, or its absence, for each embedded relation. -/
structure JoinedRow where
  base : List Cell
  related : List (Option (List Cell))
  deriving DecidableEq, Repr

/-- All ways to put related rows beside a base row. -/
def combinations (base : List Cell) : List PlacedEmbedding → List (List (Option (List Cell)))
  | [] => [[]]
  | e :: rest => (e.partners base).flatMap fun r => (combinations base rest).map (r :: ·)

/-- Join base rows with their related rows. -/
def join (embeddings : List PlacedEmbedding) (rows : List (List Cell)) : List JoinedRow :=
  rows.flatMap fun base =>
    (combinations base embeddings).map fun related => { base, related }

/-! ## Order and range -/

/-- Rows in the order of the cells at a place. Rows with equal cells keep their order. -/
def sort (place : Nat) (ascending : Bool) (rows : List JoinedRow) : List JoinedRow :=
  rows.mergeSort fun a b =>
    let o := (cellAt a.base place).compare (cellAt b.base place)
    if ascending then o != .gt else o != .lt

/-- The rows of a range. A negative start counts as none, a negative limit as no limit. -/
def cut {α : Type} (range : Option RowRange) (rows : List α) : List α :=
  match range with
  | none => rows
  | some r =>
    let rest := rows.drop r.start.toNat
    if r.limit < 0 then rest else rest.take r.limit.toNat

/-! ## Shape -/

/-- What is read of an embedded relation: the key, and its columns in order. -/
structure ReadEmbedding where
  relation : String
  keyLabel : String
  key : Datum
  fields : List (String × String × Datum)

/-- The label of a column of an embedded relation in the result. -/
def labelOf (index : Nat) (name : String) : String := "_j" ++ Nat.repr index ++ "_" ++ name

/-- The label of the key of an embedded relation. -/
def keyLabelOf (index : Nat) : String := labelOf index "_key"

def readCells : List (ReadColumn × Cell) → Except Failure (List (String × Datum))
  | [] => .ok []
  | ((name, t), c) :: rest =>
    match t.read c with
    | .error f => .error f.failure
    | .ok d => (readCells rest).map ((name, d) :: ·)

/-- Read the columns of an embedded relation. -/
def readEmbedding (index : Nat) (e : PlacedEmbedding) (related : Option (List Cell)) :
    Except Failure ReadEmbedding :=
  let cell (place : Nat) : Cell := (related.map fun row => cellAt row place).getD .null
  match readCells (e.plan.columns.zip (e.places.map cell)) with
  | .error f => .error f
  | .ok fields =>
    match e.plan.keyType.read (cell e.keyPlace) with
    | .error f => .error f.failure
    | .ok key =>
      .ok { relation := e.plan.relation, keyLabel := keyLabelOf index, key
            fields := fields.map fun p => (p.1, labelOf index p.1, p.2) }

/-- Read the embedded relations of a row, counted from `index` on. -/
def readEmbeddings : (index : Nat) → List (PlacedEmbedding × Option (List Cell)) →
    Except Failure (List ReadEmbedding)
  | _, [] => .ok []
  | index, (e, related) :: rest =>
    match readEmbedding index e related with
    | .error f => .error f
    | .ok r => (readEmbeddings (index + 1) rest).map (r :: ·)

/-- The labels of the columns of an embedded relation, its key last. -/
def embeddingLabels (index : Nat) (e : EmbeddingPlan) : List String :=
  e.columns.map (fun c => labelOf index c.1) ++ [keyLabelOf index]

/-- The labels of all columns of a result. -/
def labels (columns : List ReadColumn) (embeddings : List EmbeddingPlan) : List String :=
  columns.map Prod.fst ++ (embeddings.mapIdx embeddingLabels).flatten

/-- A label by which a result is read must be that of one column only. -/
def unambiguous (all : List String) (label : String) : Except QueryFault Unit :=
  if 1 < all.count label then .error (.ambiguousName label) else .ok ()

/-- Put an embedded relation into a row. -/
def shapeEmbedding (all : List String) (row : Row) (e : ReadEmbedding) : Except QueryFault Row := do
  unambiguous all e.keyLabel
  if e.key.isNull then return Dict.insert row e.relation .null
  else
    e.fields.forM fun f => unambiguous all f.2.1
    return Dict.insert row e.relation
      (.record (Dict.ofList (e.fields.map fun f => (f.1, f.2.2.toValue))))

/-- Put what was read of a row into shape. -/
def shape (all : List String) (base : List (String × Datum)) (embedded : List ReadEmbedding) :
    Except QueryFault Row := do
  base.forM fun p => unambiguous all p.1
  embedded.foldlM (shapeEmbedding all) (Dict.ofList (base.map fun p => (p.1, p.2.toValue)))

/-! ## The run -/

/-- A plan with its tables at hand. -/
structure Placed where
  columns : List (ReadColumn × Nat)
  embeddings : List PlacedEmbedding
  conditions : List PlacedCondition
  order : Option (Nat × Bool)
  rows : List (List Cell)
  labels : List String

/-- Fetch the tables of a plan and find its columns. -/
def place (db : Database) (p : Plan) (conditions : List BoundCondition) :
    Except QueryFault Placed := do
  let base ← live db p.table
  let related ← p.embeddings.mapM fun e => (live db e.relation).map fun t => (e, t)
  let columns ← p.columns.mapM fun c => (base.place p.table c.1).map fun q => (c, q.1)
  let embeddings ← placeEmbeddings base p.table 0 related
  let placed ← conditions.mapM (placeCondition base p.table)
  let order ← match p.order with
    | none => pure none
    | some o => (base.place p.table o.column).map fun q => some (q.1, o.ascending)
  return { columns, embeddings, conditions := placed, order, rows := base.rows,
           labels := labels p.columns p.embeddings }

/-- The base rows that meet the conditions. -/
def Placed.selected (p : Placed) : List (List Cell) := p.rows.filter (selects p.conditions)

/-- The joined rows of a range, in order. -/
def Placed.joined (p : Placed) (range : Option RowRange) : List JoinedRow :=
  let rows := join p.embeddings p.selected
  cut range (match p.order with
    | none => rows
    | some (place, ascending) => sort place ascending rows)

/-- Read a joined row and put it into shape. -/
def Placed.readRow (p : Placed) (row : JoinedRow) : Except RunFault Row :=
  match readCells (p.columns.map fun c => (c.1, cellAt row.base c.2)) with
  | .error f => .error (.failed f)
  | .ok base =>
    match readEmbeddings 0 (p.embeddings.zip row.related) with
    | .error f => .error (.failed f)
    | .ok embedded => (shape p.labels base embedded).mapError .reported

/-- The failure of an integer that does not fit. -/
def outOfRange : Failure :=
  { kind := .outOfRange, text := "Python int too large to convert to SQLite INTEGER" }

/-- Whether the integers that stay integers when they are bound all fit. -/
def integersFit (conditions : List BoundCondition) (range : Option RowRange) : Bool :=
  let cellFits : Cell → Bool
    | .int i => fits i
    | _ => true
  (conditions.all fun c => match c.test with
    | .compare _ operand => cellFits operand
    | .oneOf members => members.all cellFits
    | _ => true) &&
  match range with
  | none => true
  | some r => fits r.start && fits r.limit

/-- Run a plan. -/
def plan (db : Database) (p : Plan) (range : Option RowRange) (countExact : Bool) :
    Except RunFault Response := do
  let conditions ← (p.conditions.mapM bindCondition).mapError .reported
  let placed ← (place db p conditions).mapError .reported
  if !integersFit conditions range then throw (.failed outOfRange)
  let rows ← (placed.joined range).mapM placed.readRow
  return { rows, count := if countExact then some placed.selected.length else none }

end Run

end TableExplorer.Store
