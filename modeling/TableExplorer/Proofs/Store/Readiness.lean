import TableExplorer.Proofs.Store.Mentions

/-!
# A plan finds its columns

Where all that a request mentions is known, and what is remembered of the tables is what the
database says, the run finds every table and every column of the plan: a column that is known under
a name stands in the table under it.

Main result: `Warehouse.Current.exists_place`.
-/

namespace TableExplorer.Store

open Run

variable {w : Warehouse} {r : Request} {base : Reflection} {p : Plan}

/-! ## Tables -/

theorem Run.live_eq_ok {db : Database} {name : String} {t : Live} :
    live db name = .ok t ↔ db.find name = .relation t.columns t.rows := by
  unfold live Database.relation
  cases db.find name with
  | nothing | baseMissing base => simp [Except.map]
  | relation columns rows =>
    obtain ⟨tableColumns, tableRows⟩ := t
    simp [Except.map]

theorem reflect_eq_ok {db : Database} {name : String} {found : Reflection}
    (h : db.reflect name = .ok found) : ∃ t : Live, live db name = .ok t ∧
      found.columns = t.columns.map fun c => (c.name, ColumnType.ofDeclared c.declared) := by
  obtain ⟨⟨columns, rows⟩, hrelation, rfl⟩ := map_eq_ok.1 h
  refine ⟨⟨columns, rows⟩, live_eq_ok.2 ?_, rfl⟩
  unfold Database.relation at hrelation
  cases hfind : db.find name with
  | nothing | baseMissing base => rw [hfind] at hrelation; cases hrelation
  | relation columns' rows' => rw [hfind] at hrelation; cases hrelation; rfl

namespace Warehouse

theorem Current.exists_live (hw : w.Current) {table : String}
    (h : w.reflection table = .ok base) : ∃ t, live w.database table = .ok t :=
  (reflect_eq_ok (hw.same table ▸ h)).imp fun _ ht => ht.1

/-- **A column that is known is found.** -/
theorem Current.exists_column (hw : w.Current) {table name : String} {t : Live}
    (hlive : live w.database table = .ok t)
    (hknown : Dict.contains (w.columnsOf table) name = true) (source : String) :
    ∃ found, t.place source name = .ok found := by
  obtain ⟨c, hc, hname⟩ : ∃ c ∈ t.columns, c.name = name := by
    cases hreflected : w.reflection table with
    | error f =>
      rw [columnsOf, hreflected] at hknown
      cases hknown
    | ok base =>
      obtain ⟨t', hlive', hcolumns⟩ := reflect_eq_ok (hw.same table ▸ hreflected)
      cases hlive.symm.trans hlive'
      rw [columnsOf_eq hreflected, Dict.contains_iff_mem_keys, hcolumns, Dict.keys, List.map_map]
        at hknown
      exact List.mem_map.1 hknown
  unfold Live.place
  cases hindex : t.columns.findIdx? fun c => sameName c.name name with
  | some i => exact ⟨_, rfl⟩
  | none =>
    have hother := List.findIdx?_eq_none_iff.1 hindex c hc
    rw [hname] at hother
    simp [sameName] at hother

/-! ## Mentions that are known -/

theorem firstFault_eq_none_iff {ms : List Mention} :
    w.firstFault ms = none ↔ ∀ m ∈ ms, w.knows m = true := by
  simp [firstFault, fault?]

theorem exists_embeddingMentions (w : Warehouse) (table : String) {embeddings : List Embedding}
    {e : Embedding} (he : e ∈ embeddings) (earlier : List Embedding) :
    ∃ before, w.embeddingMentions table before e ⊆ w.blockMentions table earlier embeddings := by
  induction embeddings generalizing earlier with
  | nil => cases he
  | cons first rest ih =>
    rcases List.mem_cons.1 he with rfl | hrest
    · exact ⟨earlier, List.subset_append_left _ _⟩
    · obtain ⟨before, hsub⟩ := ih hrest (earlier ++ [first])
      exact ⟨before, fun m hm => List.mem_append_right _ (hsub hm)⟩

/-- All columns that a request names stand in their tables. -/
structure Knows (w : Warehouse) (r : Request) : Prop where
  base : ∀ name ∈ r.projection.columns, Dict.contains (w.columnsOf r.table) name = true
  hint : ∀ e ∈ r.projection.nested, Dict.contains (w.columnsOf r.table) e.hint = true
  listed : ∀ e ∈ r.projection.nested, ∀ name ∈ e.columns,
    Dict.contains (w.columnsOf e.relation) name = true
  order : ∀ o, r.order = some o → Dict.contains (w.columnsOf r.table) o.column = true

theorem knows_of_mentions (h : w.firstFault (w.mentions r) = none) : w.Knows r := by
  have hall := firstFault_eq_none_iff.1 h
  have hblock : ∀ e ∈ r.projection.nested, ∃ before,
      ∀ m ∈ w.embeddingMentions r.table before e, w.knows m = true := by
    intro e he
    obtain ⟨before, hsub⟩ := w.exists_embeddingMentions r.table he []
    exact ⟨before, fun m hm => hall m (by simp [mentions, hsub hm])⟩
  constructor
  case base =>
    intro name hname
    exact hall (.column r.table name r.table) (by simp [mentions, hname])
  case hint =>
    intro e he
    obtain ⟨before, hknown⟩ := hblock e he
    exact hknown (.column r.table e.hint r.table) (by simp [embeddingMentions])
  case listed =>
    intro e he name hname
    obtain ⟨before, hknown⟩ := hblock e he
    exact hknown (.column e.relation name (Plan.aliasOf before.length e.relation))
      (by simp [embeddingMentions, hname])
  case order =>
    intro o ho
    exact hall (.column r.table o.column r.table) (by simp [mentions, ho])

/-! ## Placing -/

theorem contains_of_reads {table : String} {names : List String} {columns : List ReadColumn}
    (hreflected : w.reflection table = .ok base) (hreads : Reads base names columns)
    (hknown : ∀ name ∈ names, Dict.contains (w.columnsOf table) name = true) :
    ∀ c ∈ columns, Dict.contains (w.columnsOf table) c.1 = true := by
  intro c hc
  have hkey : c.1 ∈ Dict.keys columns := List.mem_map_of_mem (f := Prod.fst) hc
  rw [hreads.keys_eq] at hkey
  split at hkey
  · rwa [Dict.contains_iff_mem_keys, columnsOf_eq hreflected]
  · exact hknown c.1 hkey

theorem contains_of_get? {table name : String} {t : ColumnType}
    (hreflected : w.reflection table = .ok base) (h : Dict.get? base.columns name = some t) :
    Dict.contains (w.columnsOf table) name = true := by
  rw [columnsOf_eq hreflected, Dict.contains, h, Option.isSome_some]

theorem column_of_bindCondition {c : ConditionPlan} {b : BoundCondition}
    (h : bindCondition c = .ok b) : b.column = c.column := by
  unfold bindCondition at h
  split at h <;> cases h
  rfl

theorem Current.exists_placeEmbedding (hw : w.Current) (hknown : w.Knows r) {e : Embedding}
    (he : e ∈ r.projection.nested) {eplan : EmbeddingPlan}
    (hfits : eplan.Fits w.reflection w.knownJoins base e) {t related : Live}
    (htable : live w.database r.table = .ok t)
    (hrelated : live w.database eplan.relation = .ok related) (table : String) (index : Nat) :
    ∃ placed, placeEmbedding t table index related eplan = .ok placed := by
  obtain ⟨reflected, hreflected, hkey, hreads⟩ := hfits.related
  rw [hfits.relation_eq] at hrelated
  have hlisted := contains_of_reads hreflected hreads (hknown.listed e he)
  have hcolumn : ∀ c ∈ eplan.columns, ∃ place,
      (related.place (Plan.aliasOf index eplan.relation) c.1).map Prod.fst = .ok place := by
    intro c hc
    obtain ⟨found, hfound⟩ := hw.exists_column hrelated (hlisted c hc)
      (Plan.aliasOf index eplan.relation)
    exact ⟨found.1, map_eq_ok.2 ⟨found, hfound, rfl⟩⟩
  obtain ⟨places, hplaces⟩ := exists_mapM_eq_ok hcolumn
  obtain ⟨key, hkeyPlace⟩ := hw.exists_column hrelated (contains_of_get? hreflected hkey)
    (Plan.aliasOf index eplan.relation)
  obtain ⟨hint, hhint⟩ := hw.exists_column htable (hknown.hint e he) table
  rw [← hfits.hint_eq] at hhint
  unfold placeEmbedding
  exact ⟨_, bind_eq_ok.2 ⟨places, hplaces, bind_eq_ok.2 ⟨key, hkeyPlace,
    bind_eq_ok.2 ⟨hint, hhint, rfl⟩⟩⟩⟩

theorem exists_placeEmbeddings {t : Live} {table : String}
    {related : List (EmbeddingPlan × Live)}
    (h : ∀ e ∈ related, ∀ index, ∃ placed, placeEmbedding t table index e.2 e.1 = .ok placed)
    (index : Nat) : ∃ placed, placeEmbeddings t table index related = .ok placed := by
  induction related generalizing index with
  | nil => exact ⟨[], rfl⟩
  | cons e rest ih =>
    obtain ⟨placed, hplaced⟩ := h e List.mem_cons_self index
    obtain ⟨others, hothers⟩ := ih (fun f hf => h f (List.mem_cons_of_mem _ hf)) (index + 1)
    exact ⟨placed :: others, bind_eq_ok.2 ⟨placed, hplaced, bind_eq_ok.2 ⟨others, hothers, rfl⟩⟩⟩

theorem Current.exists_related (hw : w.Current)
    (hfits : p.Fits w.reflection w.knownJoins r base) :
    ∃ related, (p.embeddings.mapM fun e => (live w.database e.relation).map fun t => (e, t)) =
      .ok related := by
  refine exists_mapM_eq_ok fun eplan heplan => ?_
  obtain ⟨e, -, hfit⟩ := exists_of_mem_right hfits.embeddings heplan
  obtain ⟨reflected, hreflected, -⟩ := hfit.related
  obtain ⟨related, hlive⟩ := hw.exists_live hreflected
  rw [hfit.relation_eq]
  exact ⟨(eplan, related), map_eq_ok.2 ⟨related, hlive, rfl⟩⟩

theorem Current.exists_columns (hw : w.Current) (hknown : w.Knows r)
    (hfits : p.Fits w.reflection w.knownJoins r base) {t : Live}
    (htable : live w.database r.table = .ok t) :
    ∃ columns, (p.columns.mapM fun c => (t.place p.table c.1).map fun q => (c, q.1)) =
      .ok columns := by
  refine exists_mapM_eq_ok fun c hc => ?_
  have hcontains := contains_of_reads hfits.reflected hfits.columns hknown.base c hc
  obtain ⟨found, hfound⟩ := hw.exists_column htable hcontains p.table
  exact ⟨(c, found.1), map_eq_ok.2 ⟨found, hfound, rfl⟩⟩

theorem Current.exists_conditions (hw : w.Current)
    (hfits : p.Fits w.reflection w.knownJoins r base) {conditions : List BoundCondition}
    (hbound : p.conditions.mapM bindCondition = .ok conditions) {t : Live}
    (htable : live w.database r.table = .ok t) :
    ∃ placed, conditions.mapM (placeCondition t p.table) = .ok placed := by
  refine exists_mapM_eq_ok fun b hb => ?_
  obtain ⟨c, hc, hbind⟩ := exists_of_mem_right (mapM_eq_ok.1 hbound) hb
  obtain ⟨predicate, -, hfit⟩ := exists_of_mem_right hfits.conditions hc
  have hcontains : Dict.contains (w.columnsOf r.table) b.column = true := by
    rw [column_of_bindCondition hbind, hfit.column_eq]
    exact contains_of_get? hfits.reflected hfit.typed
  obtain ⟨found, hfound⟩ := hw.exists_column htable hcontains p.table
  exact ⟨_, map_eq_ok.2 ⟨found, hfound, rfl⟩⟩

/-- **A plan finds its columns**, if all that its request mentions is known. -/
theorem Current.exists_place (hw : w.Current) (hknown : w.Knows r)
    (hfits : p.Fits w.reflection w.knownJoins r base) {conditions : List BoundCondition}
    (hbound : p.conditions.mapM bindCondition = .ok conditions) :
    ∃ q, place w.database p conditions = .ok q := by
  obtain ⟨t, htable⟩ := hw.exists_live hfits.reflected
  obtain ⟨related, hrelated⟩ := hw.exists_related hfits
  obtain ⟨columns, hcolumns⟩ := hw.exists_columns hknown hfits htable
  obtain ⟨placed, hplaced⟩ := hw.exists_conditions hfits hbound htable
  have hblocks : ∀ e ∈ related, ∀ index,
      ∃ placed, placeEmbedding t p.table index e.2 e.1 = .ok placed := by
    intro f hf index
    obtain ⟨eplan, heplan, hpair⟩ := exists_of_mem_right (mapM_eq_ok.1 hrelated) hf
    obtain ⟨live, hlive, rfl⟩ := map_eq_ok.1 hpair
    obtain ⟨e, he, hfit⟩ := exists_of_mem_right hfits.embeddings heplan
    exact hw.exists_placeEmbedding hknown he hfit htable hlive p.table index
  obtain ⟨embeddings, hembeddings⟩ := exists_placeEmbeddings hblocks 0
  have hbase : live w.database p.table = .ok t := by
    rw [hfits.table_eq, hw.filed hfits.reflected, htable]
  unfold place
  simp only [hbase, hrelated, hcolumns, hembeddings, hplaced, ok_bind]
  cases horder : p.order with
  | none => exact ⟨_, rfl⟩
  | some o =>
    have hasked : r.order = some o := hfits.order_eq ▸ horder
    obtain ⟨found, hfound⟩ := hw.exists_column htable (hknown.order o hasked) p.table
    simp only [hfound]
    exact ⟨_, rfl⟩

end Warehouse

end TableExplorer.Store
