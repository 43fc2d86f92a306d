import TableExplorer.Proofs.Store.Semantics

/-!
# Rows of an answer

Every row of an answer comes from a base row that meets all predicates, with one related row or none
for each block. It has the base columns by their names and then the relations, written as into a
dictionary: a relation with the name of a base column takes its place, and the column's own value is
not in the row.

`Warehouse.Lays` says this of one row, for whatever related rows a join puts beside a base row.

Main result: `Warehouse.query_lays`.
-/

namespace TableExplorer.Store

open Run

/-! ## Runs -/

/-- What a run consists of. -/
theorem Run.plan_eq_ok {db : Database} {p : Plan} {range : Option RowRange} {countExact : Bool}
    {response : Response} (h : Run.plan db p range countExact = .ok response) :
    ∃ conditions q, p.conditions.mapM bindCondition = .ok conditions ∧
      place db p conditions = .ok q ∧
      List.Forall₂ (fun row out => q.readRow row = .ok out) (q.joined range) response.rows ∧
      response.count = if countExact then some (q.selected.length : Int) else none := by
  obtain ⟨conditions, hconditions, h⟩ := bind_eq_ok.1 h
  obtain ⟨q, hq, h⟩ := bind_eq_ok.1 h
  refine ⟨conditions, q, mapError_eq_ok.1 hconditions, mapError_eq_ok.1 hq, ?_⟩
  by_cases hfit : integersFit conditions range
  · simp only [hfit] at h
    obtain ⟨rows, hrows, h⟩ := bind_eq_ok.1 h
    cases h
    exact ⟨mapM_eq_ok.1 hrows, rfl⟩
  · simp only [hfit] at h
    cases h

theorem Run.readRow_eq_ok {q : Placed} {row : JoinedRow} {out : Row} (h : q.readRow row = .ok out) :
    ∃ base embedded, readCells (q.columns.map fun c => (c.1, cellAt row.base c.2)) = .ok base ∧
      readEmbeddings 0 (q.embeddings.zip row.related) = .ok embedded ∧
      shape q.labels base embedded = .ok out := by
  unfold Placed.readRow at h
  split at h
  · cases h
  next base hbase =>
    split at h
    · cases h
    next embedded hembedded => exact ⟨base, embedded, hbase, hembedded, mapError_eq_ok.1 h⟩

namespace Warehouse

variable {w : Warehouse} {r : Request} {base : Reflection} {p : Plan} {t : Live} {q : Placed}
  {conditions : List BoundCondition}

/-! ## What a row holds -/

/-- What a block finds for a base row: a related row that it leads to, or none if there is none. -/
def Finds (w : Warehouse) (table : String) (e : Embedding) (row : List Cell) :
    Option (List Cell) → Prop
  | none => w.partners table e row = []
  | some other => other ∈ w.partners table e row

/-- The value of a block with what it finds: null without a related row, and with one whose key is
the document null; else the record of the block's columns. -/
def ShowsOf (w : Warehouse) (table : String) (e : Embedding) : Option (List Cell) → Value → Prop
  | none, v => v = .null
  | some other, v => (w.NullKey table e other ∧ v = .null) ∨
      (¬ w.NullKey table e other ∧ ∃ fields, v = .record fields ∧ w.Holds e other fields)

/-- A row that is laid out for a base row: the base columns by name, then the relations whose names
they do not have. A column holds its value unless a relation has its name, and every relation holds
what its block shows. -/
structure Lays (w : Warehouse) (r : Request) (row : List Cell) (out : Row) : Prop where
  keys : Dict.keys out = w.namesOf r.table r.projection.columns ++
    (r.projection.nested.map Embedding.relation).filter fun relation =>
      relation ∉ w.namesOf r.table r.projection.columns
  base : ∀ name ∈ w.namesOf r.table r.projection.columns,
    name ∉ r.projection.nested.map Embedding.relation →
    ∃ v, Dict.get? out name = some v ∧ w.valueOf r.table name row = some v
  related : ∀ e ∈ r.projection.nested, ∃ found v, w.Finds r.table e row found ∧
    Dict.get? out e.relation = some v ∧ w.ShowsOf r.table e found v

/-! ## One block -/

/-- The cells of a key that is led to are not null. -/
theorem cell_ne_null_of_leadsTo {base related : Live} {hint key : String} {row other : List Cell}
    (h : leadsTo base related hint key row other = true) : related.cell key other ≠ .null := by
  intro hnull
  have hoperand : ∀ a : Affinity, a.operand .null = .null := by
    intro a
    cases a <;> rfl
  simp [leadsTo, hnull, hoperand, Cell.related] at h

theorem foreignColumn?_eq {e : Embedding} {eplan : EmbeddingPlan}
    (hfits : eplan.Fits w.reflection w.knownJoins base e) (hname : base.name = r.table) :
    w.foreignColumn? r.table e = some eplan.foreignColumn := by
  obtain ⟨join, hjoin, hkey⟩ := hfits.joined
  rw [hname] at hjoin
  rw [foreignColumn?, hjoin, Option.map_some, hkey]

theorem partners_eq {e : Embedding} {eplan : EmbeddingPlan} {related : Live}
    (hfits : eplan.Fits w.reflection w.knownJoins base e) (hname : base.name = r.table)
    (htable : live w.database r.table = .ok t)
    (hrelated : live w.database eplan.relation = .ok related) (row : List Cell) :
    w.partners r.table e row =
      related.rows.filter (leadsTo t related e.hint eplan.foreignColumn row) := by
  rw [hfits.relation_eq] at hrelated
  rw [partners, foreignColumn?_eq hfits hname, tableOf_eq htable, tableOf_eq hrelated]

/-- The related rows that a block finds are those that the base row leads to. -/
theorem partners_perm {e : Embedding} {f : PlacedEmbedding} {eplan : EmbeddingPlan}
    {related : Live} (hfits : eplan.Fits w.reflection w.knownJoins base e)
    (hstands : f.Stands t related eplan) (hname : base.name = r.table)
    (htable : live w.database r.table = .ok t)
    (hrelated : live w.database eplan.relation = .ok related) (row : List Cell) :
    (f.rows.filter (f.joins row)).Perm (w.partners r.table e row) := by
  have hjoins : f.joins row = leadsTo t related e.hint eplan.foreignColumn row := by
    funext other
    rw [hstands.joins_eq, hfits.hint_eq]
  rw [partners_eq hfits hname htable hrelated, hjoins]
  exact hstands.rows_perm.filter _

theorem fields_of_reads {i : Nat} {related : Live} {eplan : EmbeddingPlan} {f : PlacedEmbedding}
    {other : List Cell} {read : ReadEmbedding} (hread : read.Reads i f (some other))
    (hstands : f.Stands t related eplan) :
    List.Forall₂ (fun c field => field.1 = c.1 ∧ field.2.1 = labelOf i c.1 ∧
      c.2.read (related.cell c.1 other) = .ok field.2.2) eplan.columns read.fields := by
  have hfields := hread.fields
  rw [hstands.plan_eq, show relatedCell (some other) = cellAt other from rfl, hstands.cells,
    ← List.map_prod_left_eq_zip, List.forall₂_map_left_iff] at hfields
  exact hfields

/-- Where the labels of a relation are not ambiguous, its columns have different names. -/
theorem nodup_of_fields {i : Nat} {columns : List ReadColumn}
    {fields : List (String × String × Datum)} {R : ReadColumn → String × String × Datum → Prop}
    (hfields : List.Forall₂ (fun c field => field.1 = c.1 ∧ field.2.1 = labelOf i c.1 ∧ R c field)
      columns fields) {all : List String}
    (hlabels : (columns.map fun c => labelOf i c.1).Sublist all)
    (hcount : ∀ field ∈ fields, all.count field.2.1 ≤ 1) : (Dict.keys columns).Nodup := by
  have hmap : (columns.map fun c => labelOf i c.1) = fields.map fun field => field.2.1 :=
    map_eq_map_of_forall₂ (hfields.imp fun _ _ h => h.2.1.symm)
  have hnodup : (columns.map fun c => labelOf i c.1).Nodup := by
    refine nodup_of_count_le_one hlabels fun label hlabel => ?_
    rw [hmap] at hlabel
    obtain ⟨field, hfield, rfl⟩ := List.mem_map.1 hlabel
    exact hcount field hfield
  rw [show (columns.map fun c => labelOf i c.1) = (Dict.keys columns).map (labelOf i) from
    List.map_map.symm] at hnodup
  exact hnodup.of_map

/-- The record of a related row holds exactly the columns of the block. -/
theorem holds_of_reads {i : Nat} {e : Embedding} {related : Live} {eplan : EmbeddingPlan}
    {f : PlacedEmbedding} {other : List Cell} {read : ReadEmbedding}
    (hfits : eplan.Fits w.reflection w.knownJoins base e) (hstands : f.Stands t related eplan)
    (hrelated : live w.database eplan.relation = .ok related)
    (hread : read.Reads i f (some other)) {all : List String}
    (hlabels : (embeddingLabels i f.plan).Sublist all)
    (hcount : ∀ field ∈ read.fields, all.count field.2.1 ≤ 1) :
    w.Holds e other (Dict.ofList (read.fields.map fun field => (field.1, field.2.2.toValue))) := by
  obtain ⟨reflected, hreflected, -, hreads⟩ := hfits.related
  have hfields := fields_of_reads hread hstands
  rw [hstands.plan_eq] at hlabels
  have hnodup := nodup_of_fields hfields ((List.sublist_append_left _ _).trans hlabels) hcount
  have hkeys : Dict.keys (read.fields.map fun field => (field.1, field.2.2.toValue)) =
      Dict.keys eplan.columns := by
    rw [Dict.keys, List.map_map]
    exact (map_eq_map_of_forall₂ (hfields.imp fun _ _ h => h.1.symm)).symm
  have hnames : w.namesOf e.relation e.columns = Dict.keys eplan.columns := by
    rw [namesOf, columnsOf_eq hreflected, hreads.keys_eq]
  rw [hfits.relation_eq] at hrelated
  rw [Holds, hnames, Dict.ofList_of_nodup (hkeys ▸ hnodup), Dict.keys, List.forall₂_map_left_iff,
    List.forall₂_map_right_iff]
  have htyped : ∀ c ∈ eplan.columns, Dict.get? (w.columnsOf e.relation) c.1 = some c.2 := by
    rw [columnsOf_eq hreflected]
    exact hreads.typed hnodup
  refine ((List.forall₂_and_left _ _).2 ⟨htyped, hfields⟩).imp ?_
  rintro c field ⟨hcolumn, hname, -, hvalue⟩
  refine ⟨hname.symm, valueOf_eq hcolumn ?_⟩
  rw [tableOf_eq hrelated]
  exact hvalue

/-- The key of a related row that was found reads as null exactly if it is the document null. -/
theorem isNull_iff_nullKey {e : Embedding} {eplan : EmbeddingPlan} {related : Live}
    {row other : List Cell} {key : Datum}
    (hfits : eplan.Fits w.reflection w.knownJoins base e) (hname : base.name = r.table)
    (hrelated : live w.database eplan.relation = .ok related)
    (hleads : leadsTo t related e.hint eplan.foreignColumn row other = true)
    (hread : eplan.keyType.read (related.cell eplan.foreignColumn other) = .ok key) :
    key.isNull = true ↔ w.NullKey r.table e other := by
  obtain ⟨reflected, hreflected, hkeyType, -⟩ := hfits.related
  rw [ColumnType.isNull_of_read hread, or_iff_right (cell_ne_null_of_leadsTo hleads)]
  have htyped : Dict.get? (w.columnsOf e.relation) eplan.foreignColumn = some eplan.keyType := by
    rw [columnsOf_eq hreflected, hkeyType]
  have hcell : (w.tableOf e.relation).cell = related.cell := by
    rw [hfits.relation_eq] at hrelated
    rw [tableOf_eq hrelated]
  constructor
  · intro hdocument
    exact ⟨_, _, foreignColumn?_eq hfits hname, htyped, hcell ▸ hdocument⟩
  · rintro ⟨foreign, keyType, hforeign, hcolumn, hdocument⟩
    rw [foreignColumn?_eq hfits hname] at hforeign
    cases hforeign
    rw [htyped] at hcolumn
    cases hcolumn
    rwa [hcell] at hdocument

/-- A block finds what the join puts beside a base row. -/
theorem finds_of_mem_partners {e : Embedding} {f : PlacedEmbedding} {eplan : EmbeddingPlan}
    {related : Live} (hfits : eplan.Fits w.reflection w.knownJoins base e)
    (hstands : f.Stands t related eplan) (hname : base.name = r.table)
    (htable : live w.database r.table = .ok t)
    (hrelated : live w.database eplan.relation = .ok related) {row : List Cell}
    {found : Option (List Cell)} (h : found ∈ f.partners row) : w.Finds r.table e row found := by
  have hperm := partners_perm hfits hstands hname htable hrelated row
  unfold PlacedEmbedding.partners at h
  cases hfilter : f.rows.filter (f.joins row) with
  | nil =>
    rw [hfilter] at h hperm
    cases List.mem_singleton.1 h
    exact hperm.nil_eq.symm
  | cons first rest =>
    rw [hfilter] at h hperm
    obtain ⟨other, hmem, rfl⟩ := List.mem_map.1 h
    exact hperm.mem_iff.1 hmem

/-- **What a block shows.** -/
theorem showsOf_of_reads {i : Nat} {e : Embedding} {related : Live} {eplan : EmbeddingPlan}
    {f : PlacedEmbedding} {row : List Cell} {found : Option (List Cell)} {read : ReadEmbedding}
    (hfits : eplan.Fits w.reflection w.knownJoins base e) (hstands : f.Stands t related eplan)
    (hname : base.name = r.table) (htable : live w.database r.table = .ok t)
    (hrelated : live w.database eplan.relation = .ok related)
    (hfound : w.Finds r.table e row found) (hread : read.Reads i f found) {all : List String}
    (hlabels : (embeddingLabels i f.plan).Sublist all)
    (hcount : read.key.isNull = false → ∀ field ∈ read.fields, all.count field.2.1 ≤ 1) :
    w.ShowsOf r.table e found read.value := by
  have hkey := hread.key
  rw [hstands.plan_eq] at hkey
  cases found with
  | none =>
    have hnull : read.key.isNull = true := (ColumnType.isNull_of_read hkey).2 (.inl rfl)
    exact if_pos hnull
  | some other =>
    have hcell : eplan.keyType.read (related.cell eplan.foreignColumn other) = .ok read.key := by
      rw [← hstands.key]
      exact hkey
    have hleads : leadsTo t related e.hint eplan.foreignColumn row other = true := by
      have hmem : other ∈ w.partners r.table e row := hfound
      rw [partners_eq hfits hname htable hrelated] at hmem
      exact (List.mem_filter.1 hmem).2
    -- The key's cell is not null, since the row leads to it; it can still read as null.
    have hnull := isNull_iff_nullKey hfits hname hrelated hleads hcell
    by_cases hshown : w.NullKey r.table e other
    · exact .inl ⟨hshown, if_pos (hnull.2 hshown)⟩
    · have hsome : read.key.isNull = false := by
        rw [← Bool.not_eq_true, hnull]
        exact hshown
      have hholds := holds_of_reads hfits hstands hrelated hread hlabels (hcount hsome)
      exact .inr ⟨hshown, _, if_neg (Bool.eq_false_iff.1 hsome), hholds⟩

/-! ## One row -/

theorem base_of_readCells {row : List Cell} {read : List (String × Datum)}
    (hstands : q.Stands w.database p conditions t)
    (h : readCells (q.columns.map fun c => (c.1, cellAt row c.2)) = .ok read) :
    List.Forall₂ (fun c f => f.1 = c.1 ∧ c.2.read (t.cell c.1 row) = .ok f.2) p.columns read := by
  rw [hstands.reads] at h
  exact List.forall₂_map_left_iff.1 (readCells_eq_ok h)

/-- What was read of a block beside a base row, among the labels of a result. -/
def BlockRead (w : Warehouse) (base : Reflection) (t : Live) (all : List String) (row : List Cell)
    (e : Embedding) (read : ReadEmbedding) : Prop :=
  ∃ eplan related i f found, eplan.Fits w.reflection w.knownJoins base e ∧
    live w.database eplan.relation = .ok related ∧ PlacedEmbedding.Stands t related eplan f ∧
    (embeddingLabels i f.plan).Sublist all ∧ found ∈ f.partners row ∧
    ReadEmbedding.Reads i f found read

theorem BlockRead.relation_eq {all : List String} {row : List Cell} {e : Embedding}
    {read : ReadEmbedding} (h : BlockRead w base t all row e read) :
    read.relation = e.relation := by
  obtain ⟨eplan, related, i, f, found, hfits, -, hplaced, -, -, hread⟩ := h
  rw [hread.relation_eq, hplaced.plan_eq, hfits.relation_eq]

theorem BlockRead.shows {all : List String} {row : List Cell} {e : Embedding}
    {read : ReadEmbedding} (h : BlockRead w base t all row e read) (hname : base.name = r.table)
    (htable : live w.database r.table = .ok t)
    (hcount : read.key.isNull = false → ∀ field ∈ read.fields, all.count field.2.1 ≤ 1) :
    ∃ found, w.Finds r.table e row found ∧ w.ShowsOf r.table e found read.value := by
  obtain ⟨eplan, related, i, f, found, hfits, hrelated, hplaced, hlabels, hpartner, hread⟩ := h
  have hfinds := finds_of_mem_partners hfits hplaced hname htable hrelated hpartner
  exact ⟨found, hfinds,
    showsOf_of_reads hfits hplaced hname htable hrelated hfinds hread hlabels hcount⟩

/-- What is read of the blocks of a row. -/
theorem blockRead_of_readEmbeddings {row : JoinedRow} {read : List ReadEmbedding}
    (hfits : p.Fits w.reflection w.knownJoins r base)
    (hstands : q.Stands w.database p conditions t)
    (hpartners : List.Forall₂ (fun f found => found ∈ f.partners row.base) q.embeddings
      row.related)
    (h : readEmbeddings 0 (q.embeddings.zip row.related) = .ok read) :
    List.Forall₂ (BlockRead w base t q.labels row.base) r.projection.nested read := by
  have hplans : p.embeddings = q.embeddings.map PlacedEmbedding.plan := by
    have hsame := map_eq_map_of_forall₂ (f := id) <|
      hstands.embeddings.imp fun _ _ ⟨_, _, hplaced⟩ => hplaced.plan_eq.symm
    rwa [List.map_id] at hsame
  have hread := reads_of_readEmbeddings h q.labels <| by
    intro k e he
    have hplaced : q.embeddings[k]? = some e.1 := (List.getElem?_zip_eq_some.1 he).1
    rw [hstands.labels_eq, Nat.zero_add]
    refine embeddingLabels_sublist ?_ p.columns
    rw [hplans, List.getElem?_map, hplaced]
    rfl
  refine (forall₂_comp (forall₂_comp hfits.embeddings hstands.embeddings)
    (forall₂_zip hpartners hread)).imp ?_
  rintro e read ⟨f, ⟨eplan, hfit, related, hrelated, hplaced⟩, found, hfound, i, hlabels, hread⟩
  exact ⟨eplan, related, i, f, found, hfit, hrelated, hplaced, hlabels, hfound, hread⟩

theorem nodup_columns {read : List (String × Datum)}
    (hstands : q.Stands w.database p conditions t)
    (hkeys : Dict.keys p.columns = read.map Prod.fst)
    (hcount : ∀ f ∈ read, q.labels.count f.1 ≤ 1) : (Dict.keys p.columns).Nodup := by
  have hsub : (Dict.keys p.columns).Sublist q.labels := by
    rw [hstands.labels_eq]
    exact List.sublist_append_left _ _
  refine nodup_of_count_le_one hsub fun label hlabel => ?_
  rw [hkeys] at hlabel
  obtain ⟨f, hf, rfl⟩ := List.mem_map.1 hlabel
  exact hcount f hf

/-- **The row of a base row.** -/
theorem lays_of_readRow {row : JoinedRow} {out : Row}
    (hfits : p.Fits w.reflection w.knownJoins r base)
    (hstands : q.Stands w.database p conditions t) (hname : base.name = r.table)
    (hpartners : List.Forall₂ (fun f found => found ∈ f.partners row.base) q.embeddings
      row.related)
    (h : q.readRow row = .ok out) : w.Lays r row.base out := by
  obtain ⟨read, embedded, hread, hembedded, hshape⟩ := Run.readRow_eq_ok h
  obtain ⟨hout, hcount, hfieldCount⟩ := shape_eq_ok hshape
  have hlive := live_eq hfits hstands hname
  have hcolumns := base_of_readCells hstands hread
  have hblocks := blockRead_of_readEmbeddings hfits hstands hpartners hembedded
  have hkeys : Dict.keys p.columns = read.map Prod.fst :=
    map_eq_map_of_forall₂ (hcolumns.imp fun _ _ hc => hc.1.symm)
  have hnames : w.namesOf r.table r.projection.columns = Dict.keys p.columns := by
    rw [namesOf, columnsOf_eq hfits.reflected, hfits.columns.keys_eq]
  -- A label that occurs twice cannot be read, so a row that is shaped has each column once.
  have hnodup := nodup_columns hstands hkeys hcount
  have hbaseKeys : Dict.keys (read.map fun f => (f.1, f.2.toValue)) = Dict.keys p.columns := by
    rw [hkeys, Dict.keys, List.map_map]
    rfl
  have hrelations : Dict.keys (embedded.map fun e => (e.relation, e.value)) =
      r.projection.nested.map Embedding.relation := by
    rw [Dict.keys, List.map_map]
    exact (map_eq_map_of_forall₂ (hblocks.imp fun _ _ hb => hb.relation_eq.symm)).symm
  have hrelationsNodup := hrelations ▸ hfits.relations
  rw [Dict.ofList_of_nodup (hbaseKeys ▸ hnodup)] at hout
  constructor
  case keys => rw [hout, Dict.keys_merge_of_nodup _ hrelationsNodup, hbaseKeys, hrelations, hnames]
  case base =>
    intro name hmem hother
    rw [hnames] at hmem
    obtain ⟨c, hc, rfl⟩ := List.mem_map.1 hmem
    obtain ⟨f, hf, hfield, hvalue⟩ := exists_of_mem_left hcolumns hc
    refine ⟨f.2.toValue, ?_, valueOf_eq (t := c.2) ?_ ?_⟩
    · rw [hout, Dict.get?_merge _ hrelationsNodup,
        (Dict.get?_eq_none_iff _ _).2 (hrelations ▸ hother), Option.none_or]
      exact Dict.get?_of_mem (hbaseKeys ▸ hnodup) (List.mem_map.2 ⟨f, hf, by rw [hfield]⟩)
    · rw [columnsOf_eq hfits.reflected]
      exact hfits.columns.typed hnodup c hc
    · rw [tableOf_eq hlive]
      exact hvalue
  case related =>
    intro e he
    obtain ⟨read, hmem, hblock⟩ := exists_of_mem_left hblocks he
    have hpair : (e.relation, read.value) ∈ embedded.map fun e => (e.relation, e.value) :=
      List.mem_map.2 ⟨read, hmem, by rw [hblock.relation_eq]⟩
    obtain ⟨found, hfinds, hshows⟩ := hblock.shows hname hlive (hfieldCount read hmem)
    refine ⟨found, read.value, hfinds, ?_, hshows⟩
    rw [hout, Dict.get?_merge _ hrelationsNodup, Dict.get?_of_mem hrelationsNodup hpair,
      Option.some_or]

/-! ## All rows -/

theorem answer_eq_ok {response : Response} (h : w.answer r = .ok response)
    (hok : response.error = none) :
    ∃ p, Plan.fromTables w.reflection w.knownJoins r = .ok p ∧
      Run.plan w.database p r.range r.countExact = .ok response := by
  unfold answer at h
  cases hplan : Plan.fromTables w.reflection w.knownJoins r with
  | error f =>
    rw [hplan] at h
    cases h
    cases hok
  | ok p =>
    rw [hplan] at h
    refine ⟨p, rfl, ?_⟩
    dsimp only at h
    cases hrun : Run.plan w.database p r.range r.countExact with
    | ok found =>
      rw [hrun] at h
      cases h
      rfl
    | error f =>
      rw [hrun] at h
      cases f with
      | reported f =>
        cases h
        cases hok
      | failed f => cases h

/-- A relation has no room for the value of a column of its name, unless the value is null or a
record itself. -/
theorem Lays.get?_ne {row : List Cell} {out : Row} (h : w.Lays r row out) {e : Embedding}
    (he : e ∈ r.projection.nested) {v : Value} (hnull : v ≠ .null)
    (hrecord : ∀ fields, v ≠ .record fields) : Dict.get? out e.relation ≠ some v := by
  obtain ⟨found, shown, -, hget, hshows⟩ := h.related e he
  rw [hget]
  rintro ⟨⟩
  cases found with
  | none => exact hnull hshows
  | some other =>
    rcases hshows with ⟨-, hnone⟩ | ⟨-, fields, hfields, -⟩
    · exact hnull hnone
    · exact hrecord fields hfields

/-- **Every row of an answer is laid out for a base row** that meets all predicates, whatever
blocks there are and however many related rows they find. A selected column whose name is that of no
relation has its own value there. Under the name of a relation stands what its block shows, also if
a selected column has that name; the column's own value is then lost, unless it looks the same. -/
theorem query_lays (hw : w.Reached) {response : Response}
    (hquery : (w.query r).1 = .ok response) (hok : response.error = none) :
    ∀ out ∈ response.rows, ∃ row ∈ w.selected r, w.Lays r row out ∧
      ∀ e ∈ r.projection.nested, ∀ v, w.valueOf r.table e.relation row = some v → v ≠ .null →
        (∀ fields, v ≠ .record fields) → Dict.get? out e.relation ≠ some v := by
  obtain ⟨_, hanswer, -⟩ := w.query_eq r
  rw [hanswer] at hquery
  obtain ⟨p, hplan, hrun⟩ := answer_eq_ok hquery hok
  obtain ⟨base, hfits⟩ := Plan.fits_of_fromTables hplan
  obtain ⟨conditions, q, hbound, hplace, hrows, -⟩ := Run.plan_eq_ok hrun
  obtain ⟨t, hstands⟩ := stands_of_place hplace
  have hname : base.name = r.table := name_of_reflectionOf hw.filed hfits.reflected
  intro out hout
  obtain ⟨row, hrow, hread⟩ := exists_of_mem_right hrows hout
  obtain ⟨hbase, hpartners⟩ := Placed.mem_joined hrow
  have hlays := lays_of_readRow hfits hstands hname hpartners hread
  refine ⟨row.base, selected_eq hfits hbound hstands hname ▸ hbase, hlays, ?_⟩
  exact fun e he v _ hnull hrecord => hlays.get?_ne he hnull hrecord

/-- A stage of a pipeline, which holds the pipeline's identifier in a column of the pipeline
table's name. -/
def stages : Warehouse where
  database :=
    (Database.create {} "funil"
      [{ name := "id", declared := "TEXT" }, { name := "nome", declared := "TEXT" }]
      [[.text "f1", .text "Inbound"]]).create "etapa"
      [{ name := "id", declared := "TEXT" }, { name := "nome", declared := "TEXT" },
        { name := "funil", declared := "TEXT" }]
      [[.text "e1", .text "New", .text "f1"]]

/-- The identifier of the pipeline is nowhere in the row in which the pipeline is embedded. -/
theorem query_lays_stages :
    let w := stages
    let r : Request :=
      { table := "etapa"
        projection := { nested := [{ relation := "funil", hint := "funil", columns := ["nome"] }] } }
    let row : List Cell := [.text "e1", .text "New", .text "f1"]
    "funil" ∈ w.namesOf "etapa" [] ∧ w.valueOf "etapa" "funil" row = some (.text "f1") ∧
    ∃ response, (w.Reached ∧ (w.query r).1 = .ok response ∧ response.error = none) ∧
      response.rows.map Dict.keys = [["id", "nome", "funil"]] ∧
      ∀ out ∈ response.rows, w.Lays r row out ∧ Dict.get? out "funil" ≠ some (.text "f1") := by
  intro w r row
  have hreached : w.Reached := .start _ _
  have hselected : w.selected r = [row] := by decide +kernel
  have hcolumn : Dict.get? (w.columnsOf "etapa") "funil" = some (.ofDeclared "TEXT") := by
    decide +kernel
  have hcell : (w.tableOf "etapa").cell "funil" row = .text "f1" := by decide +kernel
  have hread : (ColumnType.ofDeclared "TEXT").read ((w.tableOf "etapa").cell "funil" row) =
      .ok (.scalar (.text "f1")) := by
    rw [hcell]
    rfl
  have hvalue : w.valueOf "etapa" "funil" row = some (.text "f1") := valueOf_eq hcolumn hread
  have hrun : (w.query r).1.toOption.map (fun response =>
      (response.error, response.rows.map Dict.keys)) = some (none, [["id", "nome", "funil"]]) := by
    decide +kernel
  obtain ⟨response, hquery, hok, hkeys⟩ : ∃ response, (w.query r).1 = .ok response ∧
      response.error = none ∧ response.rows.map Dict.keys = [["id", "nome", "funil"]] := by
    cases hresult : (w.query r).1 with
    | error f => rw [hresult] at hrun; cases hrun
    | ok response =>
      rw [hresult] at hrun
      obtain ⟨hok, hkeys⟩ := Prod.mk.inj (Option.some.inj hrun)
      exact ⟨response, rfl, hok, hkeys⟩
  refine ⟨by decide +kernel, hvalue, response, ⟨hreached, hquery, hok⟩, hkeys, fun out hout => ?_⟩
  obtain ⟨found, hfound, hlays, hlost⟩ := query_lays hreached hquery hok out hout
  rw [hselected, List.mem_singleton] at hfound
  subst hfound
  exact ⟨hlays, hlost _ List.mem_cons_self _ hvalue nofun nofun⟩

end Warehouse

end TableExplorer.Store
