import TableExplorer.Proofs.Lists
import TableExplorer.Request.Compile

/-!
# What a compiled request depends on

The page of a state, a window of its export and its preview have their table, projection, predicates
and order in common: they differ in the range and the count only. The predicates are the mandatory
ones of the table and behind them one for each complete filter, so that no filter comes before a
mandatory predicate or takes one away.

Much of a state does not matter for this. `QueryState.Alike` relates two states that may differ in
the ids of filters and joins, in the table and the column that a join gives besides those that it is
found by, in incomplete filters, in the values of null tests, and in the direction of no order.

Main result: `requests_alike`.
-/

namespace TableExplorer

/-! ## Filters -/

/-- Whether a filter has a column and an operator. -/
def Filter.isComplete (f : Filter) : Bool := !f.column.isEmpty && f.operator.isSome

/-- A predicate is what a filter asks for: the test of its operator, on its column. -/
def Filter.Asks (f : Filter) (p : Predicate) : Prop :=
  p.column = f.column ∧ ∃ op, f.operator = some op ∧ p.test = op.test f.value

/-- Two filters with the same column and operator, and with the same value if the operator takes
one. -/
structure Filter.Alike (a b : Filter) : Prop where
  column_eq : a.column = b.column
  operator_eq : a.operator = b.operator
  value_eq : ∀ op, a.operator = some op → op.takesValue = true → a.value = b.value

theorem Filter.predicate?_eq_none {f : Filter} (h : f.isComplete = false) :
    f.predicate? = none := by
  unfold Filter.predicate?
  cases hcolumn : f.column.isEmpty with
  | true => rfl
  | false =>
    rw [Filter.isComplete, hcolumn, Bool.not_false, Bool.true_and, Option.isSome_eq_false_iff,
      Option.isNone_iff_eq_none] at h
    rw [h]
    rfl

theorem Filter.exists_predicate? {f : Filter} (h : f.isComplete = true) :
    ∃ p, f.predicate? = some p ∧ f.Asks p := by
  rw [Filter.isComplete, Bool.and_eq_true, Bool.not_eq_true', Option.isSome_iff_exists] at h
  obtain ⟨hcolumn, op, hop⟩ := h
  refine ⟨{ column := f.column, test := op.test f.value }, ?_, rfl, op, hop, rfl⟩
  rw [Filter.predicate?, hcolumn, hop]
  rfl

/-- A filter without an operator that takes a value asks the same whatever its value is. -/
theorem Operator.test_congr {op : Operator} {v v' : String} (h : op.takesValue = true → v = v') :
    op.test v = op.test v' := by
  cases op with
  | isNull | isNotNull => rfl
  | eq | neq | gt | gte | lt | lte | like | ilike | oneOf => rw [h rfl]

theorem Filter.Alike.predicate?_eq {a b : Filter} (h : a.Alike b) :
    a.predicate? = b.predicate? := by
  rw [Filter.predicate?, Filter.predicate?, ← h.column_eq, ← h.operator_eq]
  cases hop : a.operator with
  | none => rfl
  | some op => simp only [Option.map_some, Operator.test_congr (h.value_eq op hop)]

/-- **The filters of a state** are compiled one by one, in order, without the incomplete ones. -/
theorem forall₂_predicates (filters : List Filter) :
    List.Forall₂ Filter.Asks (filters.filter Filter.isComplete)
      (filters.filterMap Filter.predicate?) := by
  induction filters with
  | nil => exact .nil
  | cons f filters ih =>
    cases hcomplete : f.isComplete with
    | false =>
      rw [List.filter_cons_of_neg (by simp [hcomplete]),
        List.filterMap_cons_none (Filter.predicate?_eq_none hcomplete)]
      exact ih
    | true =>
      obtain ⟨p, hp, hasks⟩ := Filter.exists_predicate? hcomplete
      rw [List.filter_cons_of_pos hcomplete, List.filterMap_cons_some hp]
      exact .cons hasks ih

theorem filterMap_predicate? (filters : List Filter) :
    filters.filterMap Filter.predicate? =
      (filters.filter Filter.isComplete).filterMap Filter.predicate? := by
  rw [List.filterMap_filter]
  refine List.filterMap_congr fun f _ => ?_
  cases hcomplete : f.isComplete with
  | false => exact Filter.predicate?_eq_none hcomplete
  | true => rfl

theorem filterMap_predicate?_congr {fs gs : List Filter} (h : List.Forall₂ Filter.Alike fs gs) :
    fs.filterMap Filter.predicate? = gs.filterMap Filter.predicate? := by
  have hmap : fs.map Filter.predicate? = gs.map Filter.predicate? :=
    map_eq_map_of_forall₂ (h.imp fun _ _ halike => halike.predicate?_eq)
  rw [← Function.id_comp Filter.predicate?, ← List.filterMap_map, hmap, List.filterMap_map]

/-! ## States -/

/-- Two joins that embed the same: the same relation by the same column, with the same columns. -/
structure JoinConfig.Alike (a b : JoinConfig) : Prop where
  toTable_eq : a.toTable = b.toTable
  fromColumn_eq : a.fromColumn = b.fromColumn
  selectedColumns_eq : a.selectedColumns = b.selectedColumns

theorem JoinConfig.Alike.embedding_eq {a b : JoinConfig} (h : a.Alike b) :
    a.embedding = b.embedding := by
  rw [JoinConfig.embedding, JoinConfig.embedding, h.toTable_eq, h.fromColumn_eq,
    h.selectedColumns_eq]

/-- Two states that ask for the same, whatever their pages. -/
structure QueryState.Alike (a b : QueryState) : Prop where
  table_eq : a.table = b.table
  selectedColumns_eq : a.selectedColumns = b.selectedColumns
  filters : List.Forall₂ Filter.Alike (a.filters.filter Filter.isComplete)
    (b.filters.filter Filter.isComplete)
  joins : List.Forall₂ JoinConfig.Alike a.joins b.joins
  orderBy_eq : a.orderBy = b.orderBy
  orderDirection_eq : a.orderBy ≠ "" → a.orderDirection = b.orderDirection

namespace QueryState

variable {a b : QueryState}

theorem Alike.projection_eq (h : a.Alike b) : a.projection = b.projection := by
  rw [projection, projection, h.selectedColumns_eq,
    map_eq_map_of_forall₂ (h.joins.imp fun _ _ halike => halike.embedding_eq)]

theorem Alike.predicates_eq (h : a.Alike b) (mandatory : Registry.MandatoryFilters) :
    a.predicates mandatory = b.predicates mandatory := by
  rw [predicates, predicates, h.table_eq, filterMap_predicate? a.filters,
    filterMap_predicate? b.filters, filterMap_predicate?_congr h.filters]

theorem Alike.order_eq (h : a.Alike b) : a.order = b.order := by
  rw [order, order, ← h.orderBy_eq]
  by_cases hempty : a.orderBy = ""
  · rw [if_pos (String.isEmpty_iff.2 hempty), if_pos (String.isEmpty_iff.2 hempty)]
  · rw [h.orderDirection_eq hempty]

end QueryState

/-! ## Pages -/

/-- Two ranges have a row in common. -/
def RowRange.Overlaps (r r' : RowRange) : Prop :=
  ∃ i, (r.start ≤ i ∧ i ≤ r.last) ∧ (r'.start ≤ i ∧ i ≤ r'.last)

/-- A row is at one place of its page: pages of one size that share a row are the same page. -/
theorem QueryState.overlaps_pageRange {a b : QueryState} (hsize : a.pageSize = b.pageSize) :
    a.pageRange.Overlaps b.pageRange ↔ a.page = b.page := by
  have hpos : (0 : Int) < b.pageSize := Int.natCast_pos.2 b.pageSize_pos
  have hquotient : ∀ {p : Nat} {i : Int}, p * (b.pageSize : Int) ≤ i →
      i ≤ p * (b.pageSize : Int) + b.pageSize - 1 → i / b.pageSize = p := fun hlow hhigh =>
    (Int.ediv_eq_iff_of_pos hpos).2 ⟨hlow, Int.lt_of_le_sub_one hhigh⟩
  rw [pageRange, pageRange, hsize]
  constructor
  · rintro ⟨i, ha, hb⟩
    exact Int.ofNat.inj ((hquotient ha.1 ha.2).symm.trans (hquotient hb.1 hb.2))
  · intro hpage
    rw [hpage]
    refine ⟨b.page * b.pageSize, ⟨Int.le_refl _, ?_⟩, Int.le_refl _, ?_⟩ <;>
      simp only [RowRange.window] <;> omega

/-! ## Requests -/

/-- **Page, export and preview compile alike.** For any mandatory filters, page, export and preview
of a state agree on table, projection, predicates and order; the predicates are the mandatory
equalities of the table, in order, and then one for each complete filter, in order. Pages of one
size are disjoint, and a window is where it is asked for. Alike states compile to the same export,
and to the same page and preview if page and page size are the same. -/
theorem requests_alike (mandatory : Registry.MandatoryFilters) :
    (∀ (s : QueryState) (offset limit : Int),
      let page := s.pageRequest mandatory
      let window := s.exportRequest mandatory offset limit
      let preview := s.preview mandatory
      (page.table = s.table ∧ window.table = page.table ∧ preview.table = page.table) ∧
      (window.projection = page.projection ∧ preview.select = page.projection.render) ∧
      (window.predicates = page.predicates ∧ preview.predicates = page.predicates) ∧
      (window.order = page.order ∧ preview.order = page.order) ∧
      (∃ asked : List Predicate,
        page.predicates = (mandatory.ofTable s.table).map
          (fun p => { column := p.1, test := .compare .eq p.2 }) ++ asked ∧
        List.Forall₂ Filter.Asks (s.filters.filter Filter.isComplete) asked) ∧
      (page.range = some preview.range ∧
        preview.range = ⟨s.page * s.pageSize, s.page * s.pageSize + s.pageSize - 1⟩ ∧
        preview.range.limit = s.pageSize) ∧
      window.range = some ⟨offset, offset + limit - 1⟩) ∧
    (∀ a b : QueryState, a.pageSize = b.pageSize →
      ((a.preview mandatory).range.Overlaps (b.preview mandatory).range ↔ a.page = b.page)) ∧
    ∀ a b : QueryState, a.Alike b →
      (∀ offset limit : Int,
        a.exportRequest mandatory offset limit = b.exportRequest mandatory offset limit) ∧
      (a.page = b.page → a.pageSize = b.pageSize →
        a.pageRequest mandatory = b.pageRequest mandatory ∧
        a.preview mandatory = b.preview mandatory) := by
  refine ⟨fun s offset limit => ?_, fun a b hsize => QueryState.overlaps_pageRange hsize,
    fun a b halike => ⟨fun offset limit => ?_, fun hpage hsize => ?_⟩⟩
  · exact ⟨⟨rfl, rfl, rfl⟩, ⟨rfl, rfl⟩, ⟨rfl, rfl⟩, ⟨rfl, rfl⟩,
      ⟨_, rfl, forall₂_predicates s.filters⟩, ⟨rfl, rfl, RowRange.limit_window _ _⟩, rfl⟩
  · simp only [QueryState.exportRequest, halike.table_eq, halike.projection_eq,
      halike.predicates_eq mandatory, halike.order_eq]
  · have hrange : a.pageRange = b.pageRange := by
      rw [QueryState.pageRange, QueryState.pageRange, hpage, hsize]
    constructor
    · simp only [QueryState.pageRequest, halike.table_eq, halike.projection_eq,
        halike.predicates_eq mandatory, halike.order_eq, hrange]
    · simp only [QueryState.preview, halike.table_eq, halike.projection_eq,
        halike.predicates_eq mandatory, halike.order_eq, hrange]

/-- States that differ in ids, in the ends of a join, in a filter without a column, in the value of
a null test and in the direction of no order. -/
theorem requests_alike_leads :
    let mandatory := Registry.mandatoryFilters
    let join : JoinConfig := ⟨"j1", "leads", "vendedor", "vendedores", "id", ["nome"]⟩
    let a : QueryState := {
      table := "leads", page := 3,
      filters := [⟨"f1", "email", some .isNull, ""⟩, ⟨"f2", "", some .eq, "x"⟩], joins := [join] }
    let b : QueryState := {
      table := "leads", page := 3, orderDirection := .descending,
      filters := [⟨"g1", "email", some .isNull, "y"⟩],
      joins := [{ join with id := "j2", fromTable := "", toColumn := "" }] }
    (a ≠ b ∧ a.Alike b) ∧
    (a.preview mandatory).range.Overlaps (b.preview mandatory).range ∧
    a.exportRequest mandatory 0 10 = b.exportRequest mandatory 0 10 ∧
    a.pageRequest mandatory = b.pageRequest mandatory := by
  intro mandatory join a b
  have halike : a.Alike b :=
    { table_eq := rfl
      selectedColumns_eq := rfl
      filters := .cons ⟨rfl, rfl, fun op hop htakes => by cases hop; cases htakes⟩ .nil
      joins := .cons ⟨rfl, rfl, rfl⟩ .nil
      orderBy_eq := rfl
      orderDirection_eq := fun horder => absurd rfl horder }
  obtain ⟨-, hpages, hequal⟩ := requests_alike mandatory
  exact ⟨⟨by decide, halike⟩, (hpages a b rfl).2 rfl, (hequal a b halike).1 0 10,
    ((hequal a b halike).2 rfl rfl).1⟩

end TableExplorer
