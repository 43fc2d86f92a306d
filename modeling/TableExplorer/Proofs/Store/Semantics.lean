import TableExplorer.Proofs.Store.Join
import TableExplorer.Proofs.Store.Place
import TableExplorer.Proofs.Store.Plan
import TableExplorer.Proofs.Store.Shape

/-!
# What a request means

A request is said to mean what its parts say of the tables: the base rows that meet all predicates,
in order, each with its cells read by the types of their columns, and beside it the one related row
that it leads to in each embedded relation. Nothing here speaks of plans, places or joins.

`Warehouse.Gives` is the row of an answer that a base row is given, and `Warehouse.Shows` the value
that a relation has in it. That value is null where no related row is found, and also where the key
of the one that is found is the document null.
-/

namespace TableExplorer.Store.Warehouse

open Run

variable (w : Warehouse)

/-! ## Tables -/

/-- The columns of a table with their types, as the table is taken for. -/
def columnsOf (table : String) : List ReadColumn :=
  ((w.reflection table).toOption.map Reflection.columns).getD []

/-- The columns and rows of a table at the time of a request. -/
def tableOf (table : String) : Live :=
  (live w.database table).toOption.getD { columns := [], rows := [] }

/-- The value of a row in a column, where it can be read. -/
def valueOf (table name : String) (row : List Cell) : Option Value :=
  (Dict.get? (w.columnsOf table) name).bind fun t =>
    (t.read ((w.tableOf table).cell name row)).toOption.map Datum.toValue

/-- The names that are asked for, where none means all. -/
def namesOf (table : String) (names : List String) : List String :=
  if names.isEmpty then Dict.keys (w.columnsOf table) else names

/-! ## Base rows -/

/-- Whether a row of a table meets a predicate. -/
def meets (table : String) (row : List Cell) (p : Predicate) : Bool :=
  match (Dict.get? (w.columnsOf table) p.column).map fun t => bindTest t p.test with
  | some (.ok test) =>
    test.selects ((w.tableOf table).affinityOf p.column) ((w.tableOf table).cell p.column row)
  | _ => false

/-- The base rows that meet all predicates. -/
def selected (r : Request) : List (List Cell) :=
  (w.tableOf r.table).rows.filter fun row => r.predicates.all (w.meets r.table row)

/-- Whether two rows of a table are in order. -/
def precedes (table : String) (o : RowOrder) (a b : List Cell) : Bool :=
  let found := ((w.tableOf table).cell o.column a).compare ((w.tableOf table).cell o.column b)
  if o.ascending then found != .gt else found != .lt

/-- The base rows that meet all predicates, in order; rows that are equal in it keep theirs. -/
def ordered (r : Request) : List (List Cell) :=
  match r.order with
  | none => w.selected r
  | some o => (w.selected r).mergeSort (w.precedes r.table o)

/-! ## Related rows -/

/-- The column that a block leads to. -/
def foreignColumn? (table : String) (e : Embedding) : Option String :=
  (w.knownJoins.find? table e.hint e.relation).map Registry.KnownJoin.foreignColumn

/-- The related rows that a base row leads to. -/
def partners (table : String) (e : Embedding) (row : List Cell) : List (List Cell) :=
  match w.foreignColumn? table e with
  | none => []
  | some key =>
    (w.tableOf e.relation).rows.filter
      (leadsTo (w.tableOf table) (w.tableOf e.relation) e.hint key row)

/-- The key of a related row is the document null of a column of documents. -/
def NullKey (table : String) (e : Embedding) (other : List Cell) : Prop :=
  ∃ key t, w.foreignColumn? table e = some key ∧
    Dict.get? (w.columnsOf e.relation) key = some t ∧
    t.IsNullDocument ((w.tableOf e.relation).cell key other)

/-- The columns of a block, in order, with the values of a related row. -/
def Holds (e : Embedding) (other : List Cell) (fields : Row) : Prop :=
  List.Forall₂ (fun name field => name = field.1 ∧ w.valueOf e.relation name other = some field.2)
    (w.namesOf e.relation e.columns) fields

/-- The value of a block in the row of a base row: null without a related row, and with one whose
key is the document null; else the record of the block's columns. -/
def Shows (table : String) (e : Embedding) (row : List Cell) (v : Value) : Prop :=
  match w.partners table e row with
  | [] => v = .null
  | other :: _ =>
    (w.NullKey table e other ∧ v = .null) ∨
      (¬ w.NullKey table e other ∧ ∃ fields, v = .record fields ∧ w.Holds e other fields)

/-! ## Rows of an answer -/

/-- The row of an answer that a base row is given: the base columns with their values, and each
relation with the value that its block shows. A relation is written over a base column of its
name. -/
structure Gives (r : Request) (row : List Cell) (out : Row) : Prop where
  keys : ∀ key, key ∈ Dict.keys out ↔ key ∈ w.namesOf r.table r.projection.columns ∨
    key ∈ r.projection.nested.map Embedding.relation
  base : ∀ name ∈ w.namesOf r.table r.projection.columns,
    name ∉ r.projection.nested.map Embedding.relation →
    ∃ v, Dict.get? out name = some v ∧ w.valueOf r.table name row = some v
  related : ∀ e ∈ r.projection.nested,
    ∃ v, Dict.get? out e.relation = some v ∧ w.Shows r.table e row v

/-! ## By name and by plan -/

variable {w} {r : Request} {base : Reflection} {p : Plan}

theorem columnsOf_eq {table : String} (h : w.reflection table = .ok base) :
    w.columnsOf table = base.columns := by
  rw [columnsOf, h]
  rfl

theorem tableOf_eq {table : String} {t : Live} (h : live w.database table = .ok t) :
    w.tableOf table = t := by
  rw [tableOf, h]
  rfl

theorem valueOf_eq {table name : String} {row : List Cell} {t : ColumnType} {d : Datum}
    (hcolumn : Dict.get? (w.columnsOf table) name = some t)
    (hread : t.read ((w.tableOf table).cell name row) = .ok d) :
    w.valueOf table name row = some d.toValue := by
  rw [valueOf, hcolumn, Option.bind_some, hread]
  rfl

/-- A bound condition asks of a row what the predicate asks. -/
theorem meets_eq {table : String} {t : Live} (hreflected : w.reflection table = .ok base)
    (hlive : live w.database table = .ok t) {q : Predicate} {c : ConditionPlan}
    {b : BoundCondition} (hfits : c.Fits base q) (hbound : bindCondition c = .ok b)
    (row : List Cell) :
    w.meets table row q = b.test.selects (t.affinityOf b.column) (t.cell b.column row) := by
  unfold bindCondition at hbound
  cases htest : bindTest c.columnType c.test with
  | error f => rw [htest] at hbound; cases hbound
  | ok test =>
    rw [htest] at hbound
    cases hbound
    rw [meets, columnsOf_eq hreflected, hfits.typed, tableOf_eq hlive, Option.map_some,
      ← hfits.test_eq, htest, hfits.column_eq]

variable {conditions : List BoundCondition} {t : Live} {q : Placed}

theorem live_eq (hfits : p.Fits w.reflection w.knownJoins r base)
    (hstands : q.Stands w.database p conditions t) (hname : base.name = r.table) :
    live w.database r.table = .ok t := by
  rw [← hname, ← hfits.table_eq]
  exact hstands.found

theorem selected_eq (hfits : p.Fits w.reflection w.knownJoins r base)
    (hbound : p.conditions.mapM bindCondition = .ok conditions)
    (hstands : q.Stands w.database p conditions t) (hname : base.name = r.table) :
    q.selected = w.selected r := by
  have hlive := live_eq hfits hstands hname
  rw [Placed.selected, selected, hstands.rows_eq, tableOf_eq hlive]
  refine List.filter_congr fun row _ => ?_
  rw [hstands.selects_eq]
  refine (all_eq_all_of_forall₂ ?_).symm
  refine (forall₂_comp hfits.conditions (mapM_eq_ok.1 hbound)).imp ?_
  rintro predicate c ⟨condition, hfit, hbind⟩
  exact meets_eq hfits.reflected hlive hfit hbind row

theorem ordered_eq (hfits : p.Fits w.reflection w.knownJoins r base)
    (hbound : p.conditions.mapM bindCondition = .ok conditions)
    (hstands : q.Stands w.database p conditions t) (hname : base.name = r.table) :
    q.ordered = w.ordered r := by
  have hlive := live_eq hfits hstands hname
  have horder := hstands.order
  rw [hfits.order_eq] at horder
  rw [Placed.ordered, ordered, selected_eq hfits hbound hstands hname]
  cases hasked : r.order with
  | none =>
    rw [hasked] at horder
    rw [horder]
  | some o =>
    rw [hasked] at horder
    obtain ⟨place, hplace, hcell⟩ := horder
    have hin : inOrder place o.ascending = w.precedes r.table o := by
      funext a b
      rw [inOrder, precedes, hcell, hcell, tableOf_eq hlive]
    rw [hplace]
    show (w.selected r).mergeSort (inOrder place o.ascending) = _
    rw [hin]

end TableExplorer.Store.Warehouse
