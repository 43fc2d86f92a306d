import TableExplorer.Proofs.Except
import TableExplorer.Proofs.Lists
import TableExplorer.Store.Run

/-!
# Where a plan finds its cells

A plan speaks of columns by name, a run reads cells by place. Here the run's conditions, joins and
reads are said by name again: `Live.cell` is the cell of a row in a column, and `leadsTo` is the
condition of a join.

Main result: `stands_of_place`.
-/

namespace TableExplorer.Store.Run

/-! ## Cells by name -/

def Live.index? (t : Live) (name : String) : Option Nat :=
  t.columns.findIdx? fun c => sameName c.name name

def Live.cell (t : Live) (name : String) (row : List Cell) : Cell :=
  ((t.index? name).map (cellAt row)).getD .null

def Live.affinityOf (t : Live) (name : String) : Affinity :=
  (((t.index? name).bind fun i => t.columns[i]?).map ColumnDef.affinity).getD .none

theorem place_eq_ok {t : Live} {source name : String} {p : Nat × Affinity}
    (h : t.place source name = .ok p) :
    (∀ row, cellAt row p.1 = t.cell name row) ∧ p.2 = t.affinityOf name := by
  unfold Live.place at h
  unfold Live.cell Live.affinityOf Live.index?
  cases hindex : t.columns.findIdx? fun c => sameName c.name name with
  | none => rw [hindex] at h; cases h
  | some i => rw [hindex] at h; cases h; exact ⟨fun _ => rfl, rfl⟩

/-- Whether a base row leads to a related row: the hint and the key are equal, as two columns of
their affinities are compared, and neither is null. -/
def leadsTo (base related : Live) (hint key : String) (row other : List Cell) : Bool :=
  let affinity := Affinity.ofPair (base.affinityOf hint) (related.affinityOf key)
  (affinity.operand (base.cell hint row)).related (· == .eq)
    (affinity.operand (related.cell key other)) == some true

/-! ## Embedded relations -/

/-- An embedded relation with its tables at hand. -/
structure PlacedEmbedding.Stands (base related : Live) (e : EmbeddingPlan)
    (p : PlacedEmbedding) : Prop where
  plan_eq : p.plan = e
  joins_eq : ∀ row other, p.joins row other = leadsTo base related e.hint e.foreignColumn row other
  rows_perm : p.rows.Perm related.rows
  key : ∀ row, cellAt row p.keyPlace = related.cell e.foreignColumn row
  cells : ∀ row, p.places.map (cellAt row) = e.columns.map fun c => related.cell c.1 row

theorem perm_meetingOrder (indexed : Bool) (keyPlace : Nat) (places : List Nat) (t : Live) :
    (meetingOrder indexed keyPlace places t).Perm t.rows := by
  unfold meetingOrder
  split
  · exact List.mergeSort_perm _ _
  · exact .rfl

theorem stands_of_placeEmbedding {base related : Live} {table : String} {index : Nat}
    {e : EmbeddingPlan} {p : PlacedEmbedding}
    (h : placeEmbedding base table index related e = .ok p) : p.Stands base related e := by
  obtain ⟨places, hplaces, h⟩ := bind_eq_ok.1 h
  obtain ⟨⟨keyPlace, keyAffinity⟩, hkey, h⟩ := bind_eq_ok.1 h
  obtain ⟨⟨hintPlace, hintAffinity⟩, hhint, h⟩ := bind_eq_ok.1 h
  cases h
  obtain ⟨hkeyCell, hkeyAffinity⟩ := place_eq_ok hkey
  obtain ⟨hhintCell, hhintAffinity⟩ := place_eq_ok hhint
  refine ⟨rfl, fun row other => ?_, perm_meetingOrder _ _ _ _, hkeyCell, fun row => ?_⟩
  · simp only [PlacedEmbedding.joins, leadsTo] at hkeyCell hhintCell hkeyAffinity hhintAffinity ⊢
    rw [hkeyCell, hhintCell, hkeyAffinity, hhintAffinity]
  · refine (map_eq_map_of_forall₂ ((mapM_eq_ok.1 hplaces).imp fun c place hplace => ?_)).symm
    obtain ⟨found, hfound, rfl⟩ := map_eq_ok.1 hplace
    exact ((place_eq_ok hfound).1 row).symm

theorem stands_of_placeEmbeddings {base : Live} {table : String} {index : Nat}
    {related : List (EmbeddingPlan × Live)} {placed : List PlacedEmbedding}
    (h : placeEmbeddings base table index related = .ok placed) :
    List.Forall₂ (fun e p => p.Stands base e.2 e.1) related placed := by
  induction related generalizing index placed with
  | nil => cases h; exact .nil
  | cons e rest ih =>
    obtain ⟨p, hp, h⟩ := bind_eq_ok.1 h
    obtain ⟨ps, hps, h⟩ := bind_eq_ok.1 h
    cases h
    exact .cons (stands_of_placeEmbedding hp) (ih hps)

/-! ## Plans -/

/-- A plan with its tables at hand. -/
structure Placed.Stands (db : Database) (p : Plan) (conditions : List BoundCondition)
    (base : Live) (q : Placed) : Prop where
  found : live db p.table = .ok base
  rows_eq : q.rows = base.rows
  labels_eq : q.labels = Run.labels p.columns p.embeddings
  reads : ∀ row, q.columns.map (fun c => (c.1, cellAt row c.2)) =
    p.columns.map fun c => (c, base.cell c.1 row)
  embeddings : List.Forall₂ (fun e f => ∃ related, live db e.relation = .ok related ∧
    f.Stands base related e) p.embeddings q.embeddings
  selects_eq : ∀ row, selects q.conditions row = conditions.all fun c =>
    c.test.selects (base.affinityOf c.column) (base.cell c.column row)
  order : match p.order with
    | none => q.order = none
    | some o => ∃ place, q.order = some (place, o.ascending) ∧
        ∀ row, cellAt row place = base.cell o.column row

/-- **What placing a plan says.** -/
theorem stands_of_place {db : Database} {p : Plan} {conditions : List BoundCondition} {q : Placed}
    (h : place db p conditions = .ok q) : ∃ base, q.Stands db p conditions base := by
  obtain ⟨base, hbase, h⟩ := bind_eq_ok.1 h
  obtain ⟨related, hrelated, h⟩ := bind_eq_ok.1 h
  obtain ⟨columns, hcolumns, h⟩ := bind_eq_ok.1 h
  obtain ⟨embeddings, hembeddings, h⟩ := bind_eq_ok.1 h
  obtain ⟨placed, hplaced, h⟩ := bind_eq_ok.1 h
  obtain ⟨order, rfl, horder⟩ : ∃ order,
      q = { columns, embeddings, conditions := placed, order, rows := base.rows,
            labels := Run.labels p.columns p.embeddings } ∧
      match p.order with
      | none => order = none
      | some o => ∃ place, order = some (place, o.ascending) ∧
          ∀ row, cellAt row place = base.cell o.column row := by
    cases hasked : p.order with
    | none =>
      rw [hasked] at h
      cases h
      exact ⟨none, rfl, rfl⟩
    | some o =>
      rw [hasked] at h
      obtain ⟨order, horder, h⟩ := bind_eq_ok.1 h
      cases h
      obtain ⟨found, hfound, rfl⟩ := map_eq_ok.1 horder
      exact ⟨_, rfl, found.1, rfl, (place_eq_ok hfound).1⟩
  refine ⟨base, hbase, rfl, rfl, fun row => ?_, ?_, fun row => ?_, horder⟩
  · refine (map_eq_map_of_forall₂ ((mapM_eq_ok.1 hcolumns).imp fun c read hread => ?_)).symm
    obtain ⟨found, hfound, rfl⟩ := map_eq_ok.1 hread
    rw [(place_eq_ok hfound).1 row]
  · refine (forall₂_comp (mapM_eq_ok.1 hrelated) (stands_of_placeEmbeddings hembeddings)).imp ?_
    rintro e f ⟨found, hfound, hstands⟩
    obtain ⟨t, ht, rfl⟩ := map_eq_ok.1 hfound
    exact ⟨t, ht, hstands⟩
  · refine (all_eq_all_of_forall₂ ((mapM_eq_ok.1 hplaced).imp fun c read hread => ?_)).symm
    obtain ⟨⟨place, affinity⟩, hfound, rfl⟩ := map_eq_ok.1 hread
    obtain ⟨hcell, haffinity⟩ := place_eq_ok hfound
    simp only at hcell haffinity ⊢
    rw [hcell row, haffinity]

/-! ## Runs -/

/-- What a run makes of a plan that is placed. -/
def Placed.answer (q : Placed) (conditions : List BoundCondition) (range : Option RowRange)
    (countExact : Bool) : Except RunFault Response := do
  if !integersFit conditions range then throw (.failed outOfRange)
  let rows ← (q.joined range).mapM q.readRow
  return { rows, count := if countExact then some q.selected.length else none }

theorem plan_eq (db : Database) (p : Plan) (range : Option RowRange) (countExact : Bool) :
    Run.plan db p range countExact =
      ((p.conditions.mapM bindCondition).mapError .reported >>= fun conditions =>
        (place db p conditions).mapError .reported >>= fun q =>
          q.answer conditions range countExact) :=
  rfl

/-- **What it takes to answer**: the integers fit, and every row of the range can be read. -/
theorem reads_of_answer {q : Placed} {conditions : List BoundCondition} {range : Option RowRange}
    {countExact : Bool} {response : Response}
    (h : q.answer conditions range countExact = .ok response) :
    integersFit conditions range = true ∧
      List.Forall₂ (fun row out => q.readRow row = .ok out) (q.joined range) response.rows ∧
      response.error = none := by
  unfold Placed.answer at h
  by_cases hfit : integersFit conditions range = true
  · simp only [hfit] at h
    obtain ⟨rows, hrows, h⟩ := bind_eq_ok.1 h
    cases h
    exact ⟨hfit, mapM_eq_ok.1 hrows, rfl⟩
  · simp only [hfit] at h
    cases h

theorem count_of_answer {q : Placed} {conditions : List BoundCondition} {range : Option RowRange}
    {countExact : Bool} {response : Response}
    (h : q.answer conditions range countExact = .ok response) :
    response.count = if countExact then some (q.selected.length : Int) else none := by
  unfold Placed.answer at h
  by_cases hfit : integersFit conditions range = true
  · simp only [hfit] at h
    obtain ⟨rows, -, h⟩ := bind_eq_ok.1 h
    cases h
    rfl
  · simp only [hfit] at h
    cases h

theorem exists_answer {q : Placed} {conditions : List BoundCondition} {range : Option RowRange}
    (hfit : integersFit conditions range = true)
    (hread : ∀ row ∈ q.joined range, ∃ out, q.readRow row = .ok out) (countExact : Bool) :
    ∃ response, q.answer conditions range countExact = .ok response := by
  obtain ⟨rows, hrows⟩ := exists_mapM_eq_ok hread
  unfold Placed.answer
  simp only [hfit, hrows]
  exact ⟨_, rfl⟩

end TableExplorer.Store.Run
