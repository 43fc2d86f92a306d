import TableExplorer.Proofs.Except
import TableExplorer.Proofs.Lists
import TableExplorer.Proofs.Store.Reflection

/-!
# What a plan says

A request that passes all checks becomes a plan. The plan speaks of the columns that the request
names, with the types that their tables give them, and of the joins that are known.

Main result: `Plan.fits_of_fromTables`.
-/

namespace TableExplorer.Store

theorem column_eq_ok {r : Reflection} {source name : String} {t : ColumnType} :
    r.column source name = .ok t ↔ Dict.get? r.columns name = some t := by
  unfold Reflection.column
  cases Dict.get? r.columns name <;> simp

/-- The columns that some names ask for, where none means all. -/
structure Reads (r : Reflection) (names : List String) (columns : List ReadColumn) : Prop where
  keys_eq : Dict.keys columns = if names.isEmpty then Dict.keys r.columns else names
  typed : (Dict.keys columns).Nodup → ∀ c ∈ columns, Dict.get? r.columns c.1 = some c.2

theorem reads_of_readColumns {r : Reflection} {source : String} {names : List String}
    {columns : List ReadColumn} (h : Plan.readColumns r source names = .ok columns) :
    Reads r names columns := by
  unfold Plan.readColumns at h
  by_cases hnames : names.isEmpty
  · rw [if_pos hnames] at h
    cases h
    exact ⟨by rw [if_pos hnames], fun hnodup c hc => Dict.get?_of_mem hnodup hc⟩
  · rw [if_neg hnames, mapM_eq_ok] at h
    have hcolumns : List.Forall₂ (fun name c =>
        name = c.1 ∧ Dict.get? r.columns c.1 = some c.2) names columns := by
      refine h.imp fun name c hc => ?_
      obtain ⟨t, ht, rfl⟩ := map_eq_ok.1 hc
      exact ⟨rfl, column_eq_ok.1 ht⟩
    refine ⟨?_, fun _ c hc => ?_⟩
    · have hkeys := map_eq_map_of_forall₂ (f := id) (hcolumns.imp fun _ _ hc => hc.1)
      rw [if_neg hnames, ← List.map_id names]
      exact hkeys.symm
    · obtain ⟨_, _, _, htyped⟩ := exists_of_mem_right hcolumns hc
      exact htyped

/-! ## Embedded relations -/

/-- The plan of an embedded relation. -/
structure EmbeddingPlan.Fits (tables : String → Except QueryFault Reflection)
    (joins : Registry.KnownJoins) (base : Reflection) (e : Embedding) (p : EmbeddingPlan) :
    Prop where
  relation_eq : p.relation = e.relation
  hint_eq : p.hint = e.hint
  joined : ∃ join, joins.find? base.name e.hint e.relation = some join ∧
    join.foreignColumn = p.foreignColumn
  related : ∃ related, tables e.relation = .ok related ∧
    Dict.get? related.columns p.foreignColumn = some p.keyType ∧
    Reads related e.columns p.columns

namespace Plan

variable {tables : String → Except QueryFault Reflection} {joins : Registry.KnownJoins}
  {base : Reflection}

theorem embeddingFrom_eq_ok {index : Nat} {earlier : List Embedding} {e : Embedding}
    {p : EmbeddingPlan} (h : embeddingFrom tables joins base index earlier e = .ok p) :
    p.Fits tables joins base e ∧ e.relation ∉ earlier.map Embedding.relation := by
  unfold embeddingFrom at h
  split at h
  · cases h
  next hnew =>
    cases hjoin : joins.find? base.name e.hint e.relation with
    | none => rw [hjoin] at h; cases h
    | some join =>
      rw [hjoin] at h
      obtain ⟨related, hrelated, h⟩ := bind_eq_ok.1 h
      obtain ⟨_, _, h⟩ := bind_eq_ok.1 h
      obtain ⟨keyType, hkey, h⟩ := bind_eq_ok.1 h
      obtain ⟨columns, hcolumns, h⟩ := bind_eq_ok.1 h
      cases h
      refine ⟨⟨rfl, rfl, ⟨join, hjoin, rfl⟩, related, hrelated, column_eq_ok.1 hkey,
        reads_of_readColumns hcolumns⟩, fun hmem => hnew ?_⟩
      obtain ⟨other, hother, heq⟩ := List.mem_map.1 hmem
      exact List.any_eq_true.2 ⟨other, hother, decide_eq_true heq⟩

/-- Embedded relations are planned one by one, and no relation is embedded twice. -/
theorem embeddingsFrom_eq_ok {earlier embeddings : List Embedding} {plans : List EmbeddingPlan}
    (h : embeddingsFrom tables joins base earlier embeddings = .ok plans)
    (hearlier : (earlier.map Embedding.relation).Nodup) :
    List.Forall₂ (fun e p => p.Fits tables joins base e) embeddings plans ∧
      ((earlier ++ embeddings).map Embedding.relation).Nodup := by
  induction embeddings generalizing earlier plans with
  | nil =>
    cases h
    exact ⟨.nil, by rwa [List.append_nil]⟩
  | cons e rest ih =>
    obtain ⟨plan, hplan, h⟩ := bind_eq_ok.1 h
    obtain ⟨plans', hplans, h⟩ := bind_eq_ok.1 h
    cases h
    obtain ⟨hfits, hnew⟩ := embeddingFrom_eq_ok hplan
    have hnext : ((earlier ++ [e]).map Embedding.relation).Nodup := by
      rw [List.map_append, List.map_singleton, List.nodup_append]
      refine ⟨hearlier, by simp, fun a ha b hb heq => hnew ?_⟩
      rw [← List.mem_singleton.1 hb, ← heq]
      exact ha
    obtain ⟨hrest, hnodup⟩ := ih hplans hnext
    exact ⟨.cons hfits hrest, by rwa [List.append_assoc] at hnodup⟩

end Plan

/-! ## Requests -/

structure ConditionPlan.Fits (base : Reflection) (q : Predicate) (c : ConditionPlan) : Prop where
  column_eq : c.column = q.column
  test_eq : c.test = q.test
  typed : Dict.get? base.columns q.column = some c.columnType

theorem fits_of_checkCondition {base : Reflection} {q : Predicate} {c : ConditionPlan}
    (h : Plan.checkCondition base q = .ok c) : c.Fits base q := by
  unfold Plan.checkCondition at h
  cases hcolumn : base.column base.name q.column with
  | error f => rw [hcolumn] at h; cases h
  | ok t =>
    rw [hcolumn] at h
    cases htest : q.test with
    | unsupported operator => rw [htest] at h; cases h
    | _ =>
      rw [htest] at h
      cases h
      exact ⟨rfl, htest.symm, column_eq_ok.1 hcolumn⟩

/-- The plan of a request. -/
structure Plan.Fits (tables : String → Except QueryFault Reflection)
    (joins : Registry.KnownJoins) (r : Request) (base : Reflection) (p : Plan) : Prop where
  reflected : tables r.table = .ok base
  table_eq : p.table = base.name
  columns : Reads base r.projection.columns p.columns
  embeddings : List.Forall₂ (fun e q => q.Fits tables joins base e) r.projection.nested p.embeddings
  relations : (r.projection.nested.map Embedding.relation).Nodup
  conditions : List.Forall₂ (fun q c => c.Fits base q) r.predicates p.conditions
  order_eq : p.order = r.order

/-- **What a plan says.** -/
theorem Plan.fits_of_fromTables {tables : String → Except QueryFault Reflection}
    {joins : Registry.KnownJoins} {r : Request} {p : Plan}
    (h : Plan.fromTables tables joins r = .ok p) : ∃ base, p.Fits tables joins r base := by
  obtain ⟨base, hbase, h⟩ := bind_eq_ok.1 h
  obtain ⟨columns, hcolumns, h⟩ := bind_eq_ok.1 h
  obtain ⟨embeddings, hembeddings, h⟩ := bind_eq_ok.1 h
  obtain ⟨conditions, hconditions, h⟩ := bind_eq_ok.1 h
  obtain ⟨order, horder, h⟩ := bind_eq_ok.1 h
  cases h
  obtain ⟨hfits, hrelations⟩ := embeddingsFrom_eq_ok hembeddings List.nodup_nil
  refine ⟨base, hbase, rfl, reads_of_readColumns hcolumns, hfits, hrelations,
    (mapM_eq_ok.1 hconditions).imp fun q c hc => fits_of_checkCondition hc, ?_⟩
  cases hasked : r.order with
  | none => rw [hasked] at horder; cases horder; rfl
  | some o =>
    rw [hasked] at horder
    obtain ⟨_, _, rfl⟩ := map_eq_ok.1 horder
    rfl

end TableExplorer.Store
