import TableExplorer.Proofs.Store.Binding
import TableExplorer.Proofs.Store.Readiness
import TableExplorer.Proofs.Store.Windows

/-!
# Why a request is refused

A compiled request that mentions something unknown is answered with the first such thing as its
error. Where all is known there are other ways to go wrong. A value that is compared with a column
of certain types cannot be bound, whatever the column holds: that is the error of the answer too. So
is a label that two columns of the result share, once a row is read by it. A cell that its type
cannot read, and an integer of more than 64 bits, make the call itself fail.

Main result: `Warehouse.query_refusals`.
-/

namespace TableExplorer.Store

open Run

/-! ## Cells that cannot be read -/

theorem ColumnType.exists_read_null (t : ColumnType) : ∃ d, t.read .null = .ok d := by
  obtain ⟨name, args⟩ := t
  cases name <;> exact ⟨_, rfl⟩

namespace Run

/-- The fault of a cell that its type cannot read is this failure. -/
def ReadsBadly (t : ColumnType) (c : Cell) (f : Failure) : Prop :=
  ∃ fault, t.read c = .error fault ∧ f = fault.failure

theorem not_readsBadly_null (t : ColumnType) (f : Failure) : ¬ ReadsBadly t .null f := by
  rintro ⟨fault, hfault, -⟩
  obtain ⟨d, hd⟩ := t.exists_read_null
  cases hd.symm.trans hfault

theorem readsBadly_of_readCells {cells : List (ReadColumn × Cell)} {f : Failure}
    (h : readCells cells = .error f) : ∃ c ∈ cells, ReadsBadly c.1.2 c.2 f := by
  induction cells with
  | nil => cases h
  | cons c rest ih =>
    obtain ⟨⟨name, t⟩, cell⟩ := c
    simp only [readCells] at h
    cases hread : t.read cell with
    | error fault =>
      rw [hread] at h
      cases h
      exact ⟨_, List.mem_cons_self, fault, hread, rfl⟩
    | ok d =>
      rw [hread] at h
      cases hrest : readCells rest with
      | error f' =>
        rw [hrest] at h
        cases h
        obtain ⟨c, hc, hbad⟩ := ih hrest
        exact ⟨c, List.mem_cons_of_mem _ hc, hbad⟩
      | ok fields => rw [hrest] at h; cases h

theorem readsBadly_of_readEmbedding {index : Nat} {e : PlacedEmbedding}
    {related : Option (List Cell)} {f : Failure} (h : readEmbedding index e related = .error f) :
    (∃ c ∈ e.plan.columns.zip (e.places.map (relatedCell related)), ReadsBadly c.1.2 c.2 f) ∨
      ReadsBadly e.plan.keyType (relatedCell related e.keyPlace) f := by
  simp only [readEmbedding] at h
  split at h
  next f' hcells =>
    cases h
    exact .inl (readsBadly_of_readCells hcells)
  · split at h
    next fault hkey =>
      cases h
      exact .inr ⟨fault, hkey, rfl⟩
    · cases h

theorem mem_rows_of_partner {e : PlacedEmbedding} {row other : List Cell}
    (h : some other ∈ e.partners row) : other ∈ e.rows := by
  unfold PlacedEmbedding.partners at h
  split at h
  · simp at h
  · obtain ⟨found, hfound, heq⟩ := List.mem_map.1 h
    cases heq
    exact (List.mem_filter.1 hfound).1

theorem exists_of_readEmbeddings {index : Nat}
    {embeddings : List (PlacedEmbedding × Option (List Cell))} {f : Failure}
    (h : readEmbeddings index embeddings = .error f) :
    ∃ i, ∃ e ∈ embeddings, readEmbedding i e.1 e.2 = .error f := by
  induction embeddings generalizing index with
  | nil => cases h
  | cons e rest ih =>
    obtain ⟨p, related⟩ := e
    simp only [readEmbeddings] at h
    cases hread : readEmbedding index p related with
    | error f' =>
      rw [hread] at h
      cases h
      exact ⟨index, _, List.mem_cons_self, hread⟩
    | ok r =>
      rw [hread] at h
      cases hrest : readEmbeddings (index + 1) rest with
      | error f' =>
        rw [hrest] at h
        cases h
        obtain ⟨i, e, he, hbad⟩ := ih hrest
        exact ⟨i, e, List.mem_cons_of_mem _ he, hbad⟩
      | ok read => rw [hrest] at h; cases h

end Run

namespace Warehouse

variable (w : Warehouse)

/-- A request reads a column: of the base table, or of a block, whose key is read too. -/
def Asks (r : Request) (table name : String) : Prop :=
  (table = r.table ∧ name ∈ w.namesOf r.table r.projection.columns) ∨
    ∃ e ∈ r.projection.nested, table = e.relation ∧
      (name ∈ w.namesOf e.relation e.columns ∨ w.foreignColumn? r.table e = some name)

/-- A table has a cell in a column that a request reads, and its type cannot read it. -/
def Unreadable (r : Request) (f : Failure) : Prop :=
  ∃ table name t, w.Asks r table name ∧ Dict.get? (w.columnsOf table) name = some t ∧
    ∃ row ∈ (w.tableOf table).rows, ReadsBadly t ((w.tableOf table).cell name row) f

/-- The labels of the result of a request: the names of the base columns, and for each block those
of its columns and of its key, with the number of the block. -/
def labelsOf (r : Request) : List String :=
  w.namesOf r.table r.projection.columns ++
    (r.projection.nested.mapIdx fun index e =>
      (w.namesOf e.relation e.columns).map (labelOf index) ++ [keyLabelOf index]).flatten

/-- The column lists of a request have no duplicates, also where they stand for all columns. -/
structure Distinct (r : Request) : Prop where
  base : (w.namesOf r.table r.projection.columns).Nodup
  blocks : ∀ e ∈ r.projection.nested, (w.namesOf e.relation e.columns).Nodup

variable {w} {r : Request} {base : Reflection} {p : Plan} {t : Live} {q : Placed}
  {conditions : List BoundCondition}

theorem namesOf_eq {table : String} {names : List String} {columns : List ReadColumn}
    (hreflected : w.reflection table = .ok base) (hreads : Reads base names columns) :
    w.namesOf table names = Dict.keys columns := by
  rw [namesOf, columnsOf_eq hreflected, hreads.keys_eq]

theorem unreadable_of_base (hdistinct : w.Distinct r)
    (hfits : p.Fits w.reflection w.knownJoins r base)
    (hlive : live w.database r.table = .ok t) {c : ReadColumn} (hc : c ∈ p.columns)
    {row : List Cell} (hrow : row ∈ t.rows) {f : Failure}
    (hbad : ReadsBadly c.2 (t.cell c.1 row) f) : w.Unreadable r f := by
  have hnames := namesOf_eq hfits.reflected hfits.columns
  have hnodup := hdistinct.base
  rw [hnames] at hnodup
  refine ⟨r.table, c.1, c.2, .inl ⟨rfl, ?_⟩, ?_, row, ?_, ?_⟩
  · rw [hnames]
    exact List.mem_map_of_mem (f := Prod.fst) hc
  · rw [columnsOf_eq hfits.reflected]
    exact hfits.columns.typed hnodup c hc
  · rwa [tableOf_eq hlive]
  · rwa [tableOf_eq hlive]

theorem unreadable_of_block (hdistinct : w.Distinct r) (hname : base.name = r.table)
    {e : Embedding} (he : e ∈ r.projection.nested) {eplan : EmbeddingPlan}
    (hfits : eplan.Fits w.reflection w.knownJoins base e) {related : Live}
    (hlive : live w.database eplan.relation = .ok related) {place : PlacedEmbedding}
    (hplaced : place.Stands t related eplan) {row : List Cell} {found : Option (List Cell)}
    (hfound : found ∈ place.partners row) {index : Nat} {f : Failure}
    (h : readEmbedding index place found = .error f) : w.Unreadable r f := by
  cases found with
  | none =>
    -- An absent row has nothing but nulls.
    rcases readsBadly_of_readEmbedding h with ⟨c, hc, hbad⟩ | hbad
    · have hnull : c.2 = .null := by
        obtain ⟨place, -, hcell⟩ := List.mem_map.1 (List.of_mem_zip hc).2
        exact hcell.symm
      rw [hnull] at hbad
      exact absurd hbad (not_readsBadly_null _ f)
    · exact absurd hbad (not_readsBadly_null _ f)
  | some other =>
    obtain ⟨reflected, hreflected, hkeyType, hreads⟩ := hfits.related
    have htable : w.tableOf e.relation = related := tableOf_eq (hfits.relation_eq ▸ hlive)
    have hother : other ∈ (w.tableOf e.relation).rows := by
      rw [htable]
      exact hplaced.rows_perm.mem_iff.1 (mem_rows_of_partner hfound)
    have hnames := namesOf_eq hreflected hreads
    have hnodup := hdistinct.blocks e he
    rw [hnames] at hnodup
    rcases readsBadly_of_readEmbedding h with ⟨c, hc, hbad⟩ | hbad
    · rw [hplaced.plan_eq, show relatedCell (some other) = cellAt other from rfl, hplaced.cells,
        ← List.map_prod_left_eq_zip] at hc
      obtain ⟨column, hcolumn, rfl⟩ := List.mem_map.1 hc
      refine ⟨e.relation, column.1, column.2, .inr ⟨e, he, rfl, .inl ?_⟩, ?_, other, hother, ?_⟩
      · rw [hnames]
        exact List.mem_map_of_mem (f := Prod.fst) hcolumn
      · rw [columnsOf_eq hreflected]
        exact hreads.typed hnodup column hcolumn
      · rwa [htable]
    · refine ⟨e.relation, eplan.foreignColumn, eplan.keyType,
        .inr ⟨e, he, rfl, .inr (foreignColumn?_eq hfits hname)⟩, ?_, other, hother, ?_⟩
      · rw [columnsOf_eq hreflected, hkeyType]
      · rw [htable, ← hplaced.key, ← hplaced.plan_eq]
        exact hbad

/-! ## Rows that cannot be made -/

theorem labels_eq (hfits : p.Fits w.reflection w.knownJoins r base) :
    labels p.columns p.embeddings = w.labelsOf r := by
  have hblocks : (r.projection.nested.mapIdx fun index e =>
      (w.namesOf e.relation e.columns).map (labelOf index) ++ [keyLabelOf index]) =
      p.embeddings.mapIdx embeddingLabels := by
    refine mapIdx_eq_mapIdx_of_forall₂ hfits.embeddings fun index e eplan hfit => ?_
    obtain ⟨reflected, hreflected, -, hreads⟩ := hfit.related
    rw [namesOf_eq hreflected hreads, Dict.keys, List.map_map]
    rfl
  rw [labels, labelsOf, hblocks, namesOf_eq hfits.reflected hfits.columns]
  rfl

/-- What may go wrong with a row: two columns share a label, or a cell cannot be read. -/
def RowFault (w : Warehouse) (r : Request) : RunFault → Prop
  | .reported f => ∃ label, 1 < (w.labelsOf r).count label ∧ f = .ambiguousName label
  | .failed f => w.Unreadable r f

/-- **What goes wrong with a row.** -/
theorem rowFault_of_readRow (hdistinct : w.Distinct r)
    (hfits : p.Fits w.reflection w.knownJoins r base)
    (hstands : q.Stands w.database p conditions t) (hname : base.name = r.table)
    {range : Option RowRange} {row : JoinedRow} (hrow : row ∈ q.joined range) :
    FailsIn (w.RowFault r) (q.readRow row) := by
  have hlive := live_eq hfits hstands hname
  obtain ⟨hselected, hpartners⟩ := Placed.mem_joined hrow
  unfold Placed.readRow
  split
  next f hbase =>
    refine .error ?_
    rw [hstands.reads] at hbase
    obtain ⟨c, hc, hbad⟩ := readsBadly_of_readCells hbase
    obtain ⟨column, hcolumn, rfl⟩ := List.mem_map.1 hc
    have hmem : row.base ∈ t.rows := hstands.rows_eq ▸ (List.mem_filter.1 hselected).1
    exact unreadable_of_base hdistinct hfits hlive hcolumn hmem hbad
  · split
    next f hembedded =>
      refine .error ?_
      obtain ⟨index, ⟨place, found⟩, hmem, hbad⟩ := exists_of_readEmbeddings hembedded
      have hfound : found ∈ place.partners row.base := List.forall₂_zip hpartners hmem
      obtain ⟨e, he, eplan, hfit, related, hrelated, hplaced⟩ := exists_of_mem_right
        (forall₂_comp hfits.embeddings hstands.embeddings) (List.of_mem_zip hmem).1
      exact unreadable_of_block hdistinct hname he hfit hrelated hplaced hfound hbad
    · refine (failsIn_shape (P := fun f => w.RowFault r (.reported f)) ?_ _ _).mapError
        fun _ h => h
      rw [hstands.labels_eq, labels_eq hfits]
      exact fun label hmany => ⟨label, hmany, rfl⟩

/-! ## Answers -/

/-- Where a request is planned, the values of its predicates are bound, or the first that cannot be
is the fault. -/
theorem endsWith_firstUnbindable
    (hplan : Plan.fromTables w.reflection w.knownJoins r = .ok p) :
    EndsWith (w.firstUnbindable r) (p.conditions.mapM bindCondition) := by
  obtain ⟨base, hfits⟩ := Plan.fits_of_fromTables hplan
  exact endsWith_bindConditions hfits.reflected hfits.conditions

/-- A request whose mentions are known and whose values are bound is prepared. -/
theorem Current.prepared (hw : w.Current) (hfirst : w.firstFault (w.mentions r) = none)
    (hplan : Plan.fromTables w.reflection w.knownJoins r = .ok p)
    (hbound : p.conditions.mapM bindCondition = .ok conditions) :
    ∃ q, w.Prepared r conditions q := by
  obtain ⟨base, hfits⟩ := Plan.fits_of_fromTables hplan
  obtain ⟨q, hplaced⟩ := hw.exists_place (knows_of_mentions hfirst) hfits hbound
  exact ⟨q, p, hplan, hbound, hplaced⟩

theorem Current.exists_plan (hw : w.Current) (hcompiled : ∀ p ∈ r.predicates, p.test.Compiled)
    (hknown : w.firstFault (w.mentions r) = none) :
    ∃ p, Plan.fromTables w.reflection w.knownJoins r = .ok p := by
  have hchecks := hw.checks_fromTables fun p hp => (hcompiled p hp).supported
  rwa [Checks, hknown] at hchecks

theorem Current.exists_prepared (hw : w.Current)
    (hcompiled : ∀ p ∈ r.predicates, p.test.Compiled)
    (hknown : w.firstFault (w.mentions r) = none) (hbindable : w.firstUnbindable r = none) :
    ∃ conditions q, w.Prepared r conditions q := by
  obtain ⟨p, hplan⟩ := hw.exists_plan hcompiled hknown
  have hbinds := endsWith_firstUnbindable hplan
  rw [hbindable] at hbinds
  obtain ⟨conditions, hbound⟩ := hbinds
  exact ⟨conditions, hw.prepared hknown hplan hbound⟩

/-- What is prepared selects the base rows that meet all predicates. -/
theorem Current.selected_of_prepared (hw : w.Current) (h : w.Prepared r conditions q) :
    q.selected = w.selected r := by
  obtain ⟨p, hplan, hbound, hplaced⟩ := h
  obtain ⟨base, hfits⟩ := Plan.fits_of_fromTables hplan
  obtain ⟨t, hstands⟩ := stands_of_place hplaced
  exact selected_eq hfits hbound hstands (hw.filed hfits.reflected)

/-- A request whose mentions are known is answered with the fault of the first value that cannot be
bound. -/
theorem Current.query_of_unbindable (hw : w.Current)
    (hcompiled : ∀ p ∈ r.predicates, p.test.Compiled)
    (hknown : w.firstFault (w.mentions r) = none) {f : QueryFault}
    (hf : w.firstUnbindable r = some f) : (w.query r).1 = .ok { error := some f.report } := by
  obtain ⟨_, hquery, -⟩ := w.query_eq r
  obtain ⟨p, hplan⟩ := hw.exists_plan hcompiled hknown
  have hbinds := endsWith_firstUnbindable hplan
  rw [hf] at hbinds
  have hrun : Run.plan w.database p r.range r.countExact = .error (.reported f) := by
    rw [plan_eq, show p.conditions.mapM bindCondition = .error f from hbinds]
    rfl
  rw [hquery]
  simp only [answer, hplan, hrun]

/-- What may go wrong with an answer that is prepared. -/
def AnswerFault (w : Warehouse) (r : Request) : RunFault → Prop
  | .reported f => w.RowFault r (.reported f)
  | .failed f => w.RowFault r (.failed f) ∨
      f = outOfRange ∧ ∃ p ∈ r.predicates, Oversized p.test

/-- **What goes wrong with an answer that is prepared.** -/
theorem answerFault_of_prepared (hw : w.Current) (hcompiled : ∀ p ∈ r.predicates, p.test.Compiled)
    (hrange : ∀ range, r.range = some range → fits range.start = true ∧ fits range.limit = true)
    (hdistinct : w.Distinct r) (h : w.Prepared r conditions q) :
    FailsIn (w.AnswerFault r) (q.answer conditions r.range r.countExact) := by
  obtain ⟨p, hplan, hbound, hplaced⟩ := h
  obtain ⟨base, hfits⟩ := Plan.fits_of_fromTables hplan
  obtain ⟨t, hstands⟩ := stands_of_place hplaced
  have hname : base.name = r.table := hw.filed hfits.reflected
  unfold Placed.answer
  cases hfit : integersFit conditions r.range with
  | false =>
    exact .error (.inr ⟨rfl, exists_oversized hfits.conditions hbound hcompiled hrange hfit⟩)
  | true =>
    have hrows : FailsIn (w.AnswerFault r) ((q.joined r.range).mapM q.readRow) := by
      refine .mapM fun row hrow f hf => ?_
      have hfault := rowFault_of_readRow hdistinct hfits hstands hname hrow f hf
      cases f with
      | reported f => exact hfault
      | failed f => exact .inl hfault
    exact hrows.bind fun _ => .ok _

end Warehouse

namespace Warehouse

/-- A database without views that nothing is remembered of. -/
theorem current_of_no_views {database : Database} (h : database.views = [])
    (knownJoins : Registry.KnownJoins) : Current { database, knownJoins } := by
  refine ⟨fun _ => rfl, fun name base hfind => ?_⟩
  simp only [Database.find, Database.findWithin, h] at hfind
  split at hfind <;> cases hfind

/-- A lead with the day of its entry. -/
def entries : Warehouse where
  database := Database.create {} "leads" [{ name := "entrada", declared := "DATE" }]
    [[.text "2024-01-01"]]
  knownJoins := []

end Warehouse

end TableExplorer.Store
