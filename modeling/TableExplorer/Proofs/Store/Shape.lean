import TableExplorer.Proofs.Dict
import TableExplorer.Proofs.Except
import TableExplorer.Proofs.Lists
import TableExplorer.Store.Run

/-!
# The shape of a row

A row of an answer is made of the base columns, into which the embedded relations are then written.
Whether a relation is shown as null is decided by its key as it is read, not as it is stored:
besides a key that is null, the document null in a column of documents counts as none
(`isNull_of_read`).

Main results: `shape_eq_ok`, `failsIn_shape` and `isNull_of_read`.
-/

namespace TableExplorer.Store

/-! ## Nulls -/

namespace ColumnType

/-- The datum is the document null. -/
def IsNullDocument (t : ColumnType) (c : Cell) : Prop :=
  t.name = .json ∧ t.read c = .ok (.document .null)

theorem isNull_scalar (c : Cell) : (Datum.scalar c.toScalar).isNull = true ↔ c = .null := by
  cases c <;> simp [Datum.isNull, Cell.toScalar]

theorem isNull_readDecimal {t : ColumnType} {c : Cell} {d : Datum}
    (h : t.readDecimal c = .ok d) : d.isNull = true ↔ c = .null := by
  cases c <;> simp only [readDecimal, reduceCtorEq, Except.ok.injEq] at h <;> subst h <;>
    simp [Datum.isNull]

theorem isNull_readTruth (c : Cell) : (readTruth c).isNull = true ↔ c = .null := by
  cases c <;> simp [readTruth, Datum.isNull]

theorem isNull_readCalendar {α : Type} {parse : String → Except Calendar.Fault α}
    {make : α → Datum} (hmake : ∀ a, (make a).isNull = false) {c : Cell} {d : Datum}
    (h : readCalendar parse make c = .ok d) : d.isNull = true ↔ c = .null := by
  cases c with
  | null =>
    cases h
    simp [Datum.isNull]
  | text s =>
    simp only [readCalendar] at h
    cases hparse : parse s with
    | ok a =>
      rw [hparse] at h
      cases h
      simp [hmake]
    | error f => rw [hparse] at h; cases h
  | _ => cases h

theorem isNull_readDocument {c : Cell} {d : Datum} (h : readDocument c = .ok d) :
    d.isNull = true ↔ c = .null ∨ d = .document .null := by
  have hdocument : ∀ v : Value, (Datum.document v).isNull = true ↔ v = .null := by
    intro v
    cases v <;> simp [Datum.isNull]
  cases c with
  | text s =>
    simp only [readDocument] at h
    split at h
    · cases h
      simp [hdocument]
    · cases h
  | blob bs =>
    simp only [readDocument] at h
    split at h
    · cases h
    · split at h
      · cases h
        simp [hdocument]
      · cases h
  | _ =>
    cases h
    simp [Datum.isNull, Cell.toScalar]

/-- **What reads as null**: null itself, and the document null in a column of documents. -/
theorem isNull_of_read {t : ColumnType} {c : Cell} {d : Datum} (h : t.read c = .ok d) :
    d.isNull = true ↔ c = .null ∨ t.IsNullDocument c := by
  by_cases hjson : t.name = .json
  · have hdocument : readDocument c = .ok d := by
      rw [← h, read, hjson]
    rw [isNull_readDocument hdocument, IsNullDocument, h]
    simp [hjson]
  · have hnever : ¬ t.IsNullDocument c := fun hdocument => hjson hdocument.1
    rw [or_iff_left hnever]
    unfold read at h
    split at h
    · exact isNull_readDecimal h
    · exact isNull_readDecimal h
    · cases h
      exact isNull_readTruth c
    · exact isNull_readCalendar (fun _ => rfl) h
    · exact isNull_readCalendar (fun _ => rfl) h
    · exact isNull_readCalendar (fun _ => rfl) h
    · exact isNull_readCalendar (fun _ => rfl) h
    next hname => exact absurd hname hjson
    · cases h
      exact isNull_scalar c

end ColumnType

namespace Run

/-! ## Reading -/

theorem readCells_eq_ok {cells : List (ReadColumn × Cell)} {fields : List (String × Datum)}
    (h : readCells cells = .ok fields) :
    List.Forall₂ (fun c f => f.1 = c.1.1 ∧ c.1.2.read c.2 = .ok f.2) cells fields := by
  induction cells generalizing fields with
  | nil =>
    cases h
    exact .nil
  | cons c rest ih =>
    obtain ⟨⟨name, t⟩, cell⟩ := c
    simp only [readCells] at h
    cases hread : t.read cell with
    | error f => rw [hread] at h; cases h
    | ok d =>
      rw [hread] at h
      obtain ⟨fields', hrest, rfl⟩ := map_eq_ok.1 h
      exact .cons ⟨rfl, hread⟩ (ih hrest)

/-- The cell of a related row, if there is one. -/
def relatedCell (related : Option (List Cell)) (place : Nat) : Cell :=
  (related.map fun row => cellAt row place).getD .null

/-- What was read of an embedded relation. -/
structure ReadEmbedding.Reads (index : Nat) (e : PlacedEmbedding) (related : Option (List Cell))
    (r : ReadEmbedding) : Prop where
  relation_eq : r.relation = e.plan.relation
  keyLabel_eq : r.keyLabel = keyLabelOf index
  key : e.plan.keyType.read (relatedCell related e.keyPlace) = .ok r.key
  fields : List.Forall₂ (fun c f => f.1 = c.1.1 ∧ f.2.1 = labelOf index c.1.1 ∧
    c.1.2.read c.2 = .ok f.2.2) (e.plan.columns.zip (e.places.map (relatedCell related))) r.fields

theorem reads_of_readEmbedding {index : Nat} {e : PlacedEmbedding}
    {related : Option (List Cell)} {r : ReadEmbedding}
    (h : readEmbedding index e related = .ok r) : r.Reads index e related := by
  simp only [readEmbedding] at h
  split at h
  · cases h
  next fields hfields =>
    split at h
    · cases h
    next key hkey =>
      cases h
      refine ⟨rfl, rfl, hkey, ?_⟩
      rw [List.forall₂_map_right_iff]
      exact (readCells_eq_ok hfields).imp fun c f hf => ⟨hf.1, congrArg (labelOf index) hf.1, hf.2⟩

/-- What was read of all embedded relations, each with the labels of its own number. -/
theorem reads_of_readEmbeddings {index : Nat}
    {embeddings : List (PlacedEmbedding × Option (List Cell))} {read : List ReadEmbedding}
    (h : readEmbeddings index embeddings = .ok read) (all : List String)
    (hlabels : ∀ k e, embeddings[k]? = some e →
      (embeddingLabels (index + k) e.1.plan).Sublist all) :
    List.Forall₂ (fun e r => ∃ i, (embeddingLabels i e.1.plan).Sublist all ∧ r.Reads i e.1 e.2)
      embeddings read := by
  induction embeddings generalizing index read with
  | nil =>
    cases h
    exact .nil
  | cons e rest ih =>
    obtain ⟨p, related⟩ := e
    simp only [readEmbeddings] at h
    cases hread : readEmbedding index p related with
    | error f => rw [hread] at h; cases h
    | ok r =>
      rw [hread] at h
      obtain ⟨read', hrest, rfl⟩ := map_eq_ok.1 h
      refine .cons ⟨index, hlabels 0 _ rfl, reads_of_readEmbedding hread⟩ (ih hrest ?_)
      intro k f hf
      rw [show index + 1 + k = index + (k + 1) by omega]
      exact hlabels (k + 1) f hf

theorem embeddingLabels_sublist {embeddings : List EmbeddingPlan} {index : Nat} {e : EmbeddingPlan}
    (h : embeddings[index]? = some e) (columns : List ReadColumn) :
    (embeddingLabels index e).Sublist (labels columns embeddings) := by
  have hmem : embeddingLabels index e ∈ embeddings.mapIdx embeddingLabels := by
    refine List.mem_of_getElem? (i := index) ?_
    rw [List.getElem?_mapIdx, h]
    rfl
  exact (List.sublist_flatten_of_mem hmem).trans (List.sublist_append_right _ _)

/-! ## Shaping -/

/-- The value under the name of an embedded relation. -/
def ReadEmbedding.value (e : ReadEmbedding) : Value :=
  if e.key.isNull then .null
  else .record (Dict.ofList (e.fields.map fun f => (f.1, f.2.2.toValue)))

theorem unambiguous_eq_ok {all : List String} {label : String} :
    unambiguous all label = .ok () ↔ all.count label ≤ 1 := by
  unfold unambiguous
  split
  · exact ⟨fun h => (nomatch h), fun h => by omega⟩
  · exact ⟨fun _ => by omega, fun _ => rfl⟩

theorem failsIn_unambiguous {P : QueryFault → Prop} {all : List String}
    (h : ∀ label, 1 < all.count label → P (.ambiguousName label)) (label : String) :
    FailsIn P (unambiguous all label) := by
  unfold unambiguous
  split
  next hmany => exact .error (h label hmany)
  · exact .ok ()

theorem failsIn_shapeEmbedding {P : QueryFault → Prop} {all : List String}
    (h : ∀ label, 1 < all.count label → P (.ambiguousName label)) (row : Row) (e : ReadEmbedding) :
    FailsIn P (shapeEmbedding all row e) := by
  refine (failsIn_unambiguous h e.keyLabel).bind fun _ => ?_
  by_cases hnull : e.key.isNull = true
  · rw [if_pos hnull]
    exact .ok _
  · rw [if_neg hnull]
    exact (FailsIn.forM (fun f => failsIn_unambiguous h f.2.1) e.fields).bind fun _ => .ok _

theorem failsIn_shape {P : QueryFault → Prop} {all : List String}
    (h : ∀ label, 1 < all.count label → P (.ambiguousName label)) (base : List (String × Datum))
    (embedded : List ReadEmbedding) : FailsIn P (shape all base embedded) := by
  have hbase : FailsIn P (base.forM fun p => unambiguous all p.1) :=
    .forM (fun p => failsIn_unambiguous h p.1) base
  exact hbase.bind fun _ => .foldlM (failsIn_shapeEmbedding h) _ embedded

theorem shapeEmbedding_eq_ok {all : List String} {row out : Row} {e : ReadEmbedding}
    (h : shapeEmbedding all row e = .ok out) :
    out = Dict.insert row e.relation e.value ∧
      (e.key.isNull = false → ∀ f ∈ e.fields, all.count f.2.1 ≤ 1) := by
  obtain ⟨_, _, h⟩ := bind_eq_ok.1 h
  unfold ReadEmbedding.value
  by_cases hnull : e.key.isNull
  · rw [if_pos hnull] at h ⊢
    cases h
    exact ⟨rfl, fun hsome => absurd (hsome.symm.trans hnull) Bool.false_ne_true⟩
  · rw [if_neg hnull] at h ⊢
    obtain ⟨⟨⟩, hfields, h⟩ := bind_eq_ok.1 h
    cases h
    exact ⟨rfl, fun _ f hf => unambiguous_eq_ok.1 (forM_eq_ok.1 hfields f hf)⟩

theorem foldlM_shapeEmbedding_eq_ok {all : List String} {row out : Row}
    {embedded : List ReadEmbedding} (h : embedded.foldlM (shapeEmbedding all) row = .ok out) :
    out = Dict.merge row (embedded.map fun e => (e.relation, e.value)) ∧
      ∀ e ∈ embedded, e.key.isNull = false → ∀ f ∈ e.fields, all.count f.2.1 ≤ 1 := by
  induction embedded generalizing row with
  | nil =>
    cases h
    exact ⟨rfl, fun _ hmem => absurd hmem List.not_mem_nil⟩
  | cons e rest ih =>
    rw [List.foldlM_cons] at h
    obtain ⟨row', hrow, h⟩ := bind_eq_ok.1 h
    obtain ⟨rfl, hfields⟩ := shapeEmbedding_eq_ok hrow
    obtain ⟨hout, hrest⟩ := ih h
    exact ⟨hout, List.forall_mem_cons.2 ⟨hfields, hrest⟩⟩

/-- **The shape of a row**: the base columns with the relations written into them, all under labels
that are not ambiguous. -/
theorem shape_eq_ok {all : List String} {base : List (String × Datum)}
    {embedded : List ReadEmbedding} {out : Row} (h : shape all base embedded = .ok out) :
    out = Dict.merge (Dict.ofList (base.map fun p => (p.1, p.2.toValue)))
        (embedded.map fun e => (e.relation, e.value)) ∧
      (∀ p ∈ base, all.count p.1 ≤ 1) ∧
      ∀ e ∈ embedded, e.key.isNull = false → ∀ f ∈ e.fields, all.count f.2.1 ≤ 1 := by
  obtain ⟨⟨⟩, hbase, h⟩ := bind_eq_ok.1 h
  obtain ⟨hout, hfields⟩ := foldlM_shapeEmbedding_eq_ok h
  exact ⟨hout, fun p hp => unambiguous_eq_ok.1 (forM_eq_ok.1 hbase p hp), hfields⟩

end Run

end TableExplorer.Store
