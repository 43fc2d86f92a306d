import TableExplorer.Proofs.Store.Semantics

/-!
# What a request mentions

A request mentions tables, columns, relations and joins. Planning checks them one after the other,
and the first that is not known is the fault that is reported. `Warehouse.mentions` lists them in
the order in which they are checked, and `Warehouse.Checks` says of a computation that it checks
what a list mentions: it succeeds if all of it is known, and else ends with the fault of the first
that is not. Computations that follow each other check what both mention.

Main result: `Warehouse.checks_fromTables`.
-/

namespace TableExplorer.Store

/-! ## Mentions -/

/-- What a request may mention without its being there. A column has the name of its table in an
error text, its `source`; a relation has the relations that are embedded before it. -/
inductive Mention
  | table (name : String)
  | column (table name source : String)
  | relation (name base : String) (earlier : List String)
  | join (base related hint : String)
  deriving DecidableEq, Repr

/-- The fault if what is mentioned is not known. -/
def Mention.fault : Mention → QueryFault
  | table name => .unknownTable name
  | column _ name source => .unknownColumn source name
  | relation name base _ => .embeddedTwice name base
  | join base related hint => .noRelationship base related hint

namespace Warehouse

variable (w : Warehouse)

/-- Whether what is mentioned is there: a table of the database, a column of the table, a relation
that is not embedded already, a join that is known. -/
def knows : Mention → Bool
  | .table name => w.database.find name != .nothing
  | .column table name _ => Dict.contains (w.columnsOf table) name
  | .relation name _ earlier => name ∉ earlier
  | .join base related hint => (w.knownJoins.find? base hint related).isSome

/-- What one block mentions: its relation, the join and the related table, the hint, the column that
it leads to, and the columns that are listed. -/
def embeddingMentions (base : String) (earlier : List Embedding) (e : Embedding) : List Mention :=
  [.relation e.relation base (earlier.map Embedding.relation), .join base e.relation e.hint,
    .table e.relation, .column base e.hint base] ++
  ((w.foreignColumn? base e).toList ++ e.columns).map fun name =>
    .column e.relation name (Plan.aliasOf earlier.length e.relation)

/-- What blocks mention, one after the other; `earlier` are those before them. -/
def blockMentions (base : String) : (earlier : List Embedding) → List Embedding → List Mention
  | _, [] => []
  | earlier, e :: rest =>
    w.embeddingMentions base earlier e ++ blockMentions base (earlier ++ [e]) rest

/-- What a request mentions, in the order in which it is checked: the base table, its columns that
are listed, the blocks, the columns of the predicates, and that of the order. -/
def mentions (r : Request) : List Mention :=
  .table r.table :: (r.projection.columns.map fun name => .column r.table name r.table) ++
    (w.blockMentions r.table [] r.projection.nested ++
      ((r.predicates.map fun p => .column r.table p.column r.table) ++
        r.order.toList.map fun o => .column r.table o.column r.table))

/-- The fault of what is mentioned, if it is not known. -/
def fault? (m : Mention) : Option QueryFault := if w.knows m then none else some m.fault

/-- The fault of the first mention that is not known. -/
def firstFault (mentions : List Mention) : Option QueryFault := mentions.findSome? w.fault?

/-- What is remembered of tables is what the database says, and no view is left without its
table. -/
structure Current : Prop where
  same : ∀ name, w.reflection name = w.database.reflect name
  whole : ∀ name base, w.database.find name ≠ .baseMissing base

/-! ## Computations that check -/

/-- A computation that checks what is mentioned, in order. -/
def Checks {α : Type} (mentions : List Mention) (x : Except QueryFault α) : Prop :=
  EndsWith (w.firstFault mentions) x

variable {w} {α β : Type} {ms later : List Mention}

theorem firstFault_of_known {m : Mention} (h : w.knows m = true) :
    w.firstFault (m :: ms) = w.firstFault ms := by
  simp [firstFault, fault?, h]

theorem firstFault_of_unknown {m : Mention} (h : w.knows m = false) :
    w.firstFault (m :: ms) = some m.fault := by
  simp [firstFault, fault?, h]

theorem checks_ok (a : α) : w.Checks [] (.ok a) := EndsWith.ok a

theorem checks_unknown (m : Mention) (h : w.knows m = false) :
    w.Checks (m :: ms) (.error m.fault : Except QueryFault α) := by
  rw [Checks, firstFault_of_unknown h]
  exact EndsWith.error m.fault

theorem Checks.cons_known {m : Mention} {x : Except QueryFault α} (hx : w.Checks ms x)
    (h : w.knows m = true) : w.Checks (m :: ms) x := by
  rwa [Checks, firstFault_of_known h]

theorem Checks.bind {x : Except QueryFault α} {f : α → Except QueryFault β} (hx : w.Checks ms x)
    (hf : ∀ a, x = .ok a → w.Checks later (f a)) : w.Checks (ms ++ later) (x >>= f) := by
  rw [Checks, firstFault, List.findSome?_append]
  exact EndsWith.bind hx hf

theorem Checks.map {x : Except QueryFault α} (hx : w.Checks ms x) (f : α → β) :
    w.Checks ms (x.map f) := EndsWith.map hx f

theorem checks_mapM {mention : α → Mention} {f : α → Except QueryFault β} {xs : List α}
    (hf : ∀ x ∈ xs, w.Checks [mention x] (f x)) : w.Checks (xs.map mention) (xs.mapM f) := by
  rw [Checks, firstFault, List.findSome?_map]
  refine EndsWith.mapM fun x hx => ?_
  have hmember := hf x hx
  unfold Checks firstFault at hmember
  simpa using hmember

/-! ## Tables and columns -/

variable {base : Reflection}

theorem Current.filed (hw : w.Current) {table : String} (h : w.reflection table = .ok base) :
    base.name = table :=
  name_of_reflect (hw.same table ▸ h)

/-- A table is known if it is found in the database, and then it can be reflected. -/
theorem Current.checks_reflection (hw : w.Current) (table : String) :
    w.Checks [.table table] (w.reflection table) := by
  rw [hw.same]
  unfold Database.reflect Database.relation
  cases hfind : w.database.find table with
  | nothing =>
    have hunknown : w.knows (.table table) = false := by simp [knows, hfind]
    exact checks_unknown _ hunknown
  | baseMissing base => exact absurd hfind (hw.whole table base)
  | relation columns rows =>
    have hknown : w.knows (.table table) = true := by simp [knows, hfind]
    exact (checks_ok _).cons_known hknown

theorem checks_column {table : String} (h : w.reflection table = .ok base) (source name : String) :
    w.Checks [.column table name source] (base.column source name) := by
  have hknows : w.knows (.column table name source) = (Dict.get? base.columns name).isSome := by
    rw [knows, columnsOf_eq h, Dict.contains]
  unfold Reflection.column
  cases hget : Dict.get? base.columns name with
  | none =>
    rw [hget] at hknows
    exact checks_unknown _ hknows
  | some t =>
    rw [hget] at hknows
    exact (checks_ok t).cons_known hknows

theorem checks_readColumns {table : String} (h : w.reflection table = .ok base) (source : String)
    (names : List String) :
    w.Checks (names.map fun name => .column table name source)
      (Plan.readColumns base source names) := by
  unfold Plan.readColumns
  cases names with
  | nil => exact checks_ok _
  | cons name rest =>
    exact checks_mapM fun name _ => (checks_column h source name).map fun t => (name, t)

/-! ## Requests -/

/-- **What one block checks.** -/
theorem Current.checks_embeddingFrom (hw : w.Current) (hbase : w.reflection base.name = .ok base)
    (earlier : List Embedding) (e : Embedding) :
    w.Checks (w.embeddingMentions base.name earlier e)
      (Plan.embeddingFrom w.reflection w.knownJoins base earlier.length earlier e) := by
  have htwice : w.knows (.relation e.relation base.name (earlier.map Embedding.relation)) =
      !earlier.any fun other => decide (other.relation = e.relation) := by
    rw [knows, Bool.eq_iff_iff]
    simp
  unfold Plan.embeddingFrom embeddingMentions
  by_cases hagain : (earlier.any fun other => decide (other.relation = e.relation)) = true
  · rw [if_pos hagain]
    rw [hagain] at htwice
    exact checks_unknown _ htwice
  · rw [if_neg hagain]
    have hnew : w.knows (.relation e.relation base.name (earlier.map Embedding.relation)) = true :=
      by simpa [htwice] using hagain
    rw [List.cons_append]
    refine Checks.cons_known ?_ hnew
    cases hjoin : w.knownJoins.find? base.name e.hint e.relation with
    | none =>
      have hunknown : w.knows (.join base.name e.relation e.hint) = false := by simp [knows, hjoin]
      exact checks_unknown _ hunknown
    | some join =>
      have hknown : w.knows (.join base.name e.relation e.hint) = true := by simp [knows, hjoin]
      refine Checks.cons_known ?_ hknown
      rw [foreignColumn?, hjoin]
      refine (hw.checks_reflection e.relation).bind fun related hrelated => ?_
      refine (checks_column hbase base.name e.hint).bind fun _ _ => ?_
      refine (checks_column hrelated _ join.foreignColumn).bind fun _ _ => ?_
      exact (checks_readColumns hrelated _ e.columns).map _

theorem Current.checks_embeddingsFrom (hw : w.Current) (hbase : w.reflection base.name = .ok base)
    (earlier embeddings : List Embedding) :
    w.Checks (w.blockMentions base.name earlier embeddings)
      (Plan.embeddingsFrom w.reflection w.knownJoins base earlier embeddings) := by
  induction embeddings generalizing earlier with
  | nil => exact checks_ok []
  | cons e rest ih =>
    exact (hw.checks_embeddingFrom hbase earlier e).bind fun _ _ => (ih (earlier ++ [e])).map _

theorem checks_checkCondition (hbase : w.reflection base.name = .ok base) {p : Predicate}
    (hsupported : ∀ operator, p.test ≠ .unsupported operator) :
    w.Checks [.column base.name p.column base.name] (Plan.checkCondition base p) := by
  have hcolumn := checks_column hbase base.name p.column
  have hmap : Plan.checkCondition base p = (base.column base.name p.column).map
      fun columnType => { column := p.column, columnType, test := p.test } := by
    unfold Plan.checkCondition
    cases base.column base.name p.column with
    | error f => rfl
    | ok columnType =>
      cases htest : p.test with
      | unsupported operator => exact absurd htest (hsupported operator)
      | _ => rfl
  rw [hmap]
  exact hcolumn.map _

theorem checks_checkOrder (hbase : w.reflection base.name = .ok base) (order : Option RowOrder) :
    w.Checks (order.toList.map fun o => .column base.name o.column base.name)
      (Plan.checkOrder base order) := by
  cases order with
  | none => exact checks_ok none
  | some o => exact (checks_column hbase base.name o.column).map _

/-- **A request is planned exactly if all that it mentions is known**, and else the first mention
that is not known is the fault, if every test is one that there is. -/
theorem Current.checks_fromTables (hw : w.Current) {r : Request}
    (hsupported : ∀ p ∈ r.predicates, ∀ operator, p.test ≠ .unsupported operator) :
    w.Checks (w.mentions r) (Plan.fromTables w.reflection w.knownJoins r) := by
  refine (hw.checks_reflection r.table).bind fun base hbase => ?_
  have hname : base.name = r.table := hw.filed hbase
  rw [← hname] at hbase ⊢
  refine (checks_readColumns hbase base.name r.projection.columns).bind fun _ _ => ?_
  refine (hw.checks_embeddingsFrom hbase [] r.projection.nested).bind fun _ _ => ?_
  refine (checks_mapM fun p hp => checks_checkCondition hbase (hsupported p hp)).bind fun _ _ => ?_
  exact (checks_checkOrder hbase r.order).map _

end Warehouse

end TableExplorer.Store
