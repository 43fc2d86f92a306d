import TableExplorer.Proofs.Store.Refusals

/-!
# The rows that pass a filter

A filter that asks for an order compares the cell of a row with the text of the filter as the type
of the column binds it. Where the cell stands to it is one of three orderings, or unknown: the cell
is null, or the text is bound as null or not at all. Each such filter accepts some of the orderings,
and nothing that is unknown, so that the laws between them are those of orderings.

A list is compared member by member as it is, whatever the type of the column. It is therefore the
union of its members' equalities only where texts are bound as they are: elsewhere a list may find
what no equality finds.

Main result: `Warehouse.filters_compare`.
-/

namespace TableExplorer

open Store

/-- The orderings of a cell to a value that an operator accepts, if it asks for an order. -/
def Operator.accepts? : Operator → Option (Ordering → Bool)
  | .eq => some (· == .eq)
  | .neq => some (· != .eq)
  | .gt => some (· == .gt)
  | .gte => some (· != .lt)
  | .lt => some (· == .lt)
  | .lte => some (· != .gt)
  | .like | .ilike | .isNull | .isNotNull | .oneOf => none

/-- The laws of comparison, for the operators by which something passes. -/
structure Operator.Laws (passes : Operator → Prop) : Prop where
  isNotNull : passes .isNotNull ↔ ¬ passes .isNull
  gte : passes .gte ↔ passes .gt ∨ passes .eq
  lte : passes .lte ↔ passes .lt ∨ passes .eq
  neq : passes .neq ↔ passes .lt ∨ passes .gt
  lt_eq : passes .lt → ¬ passes .eq
  lt_gt : passes .lt → ¬ passes .gt
  eq_gt : passes .eq → ¬ passes .gt
  isNull : passes .isNull → ¬ passes .lt ∧ ¬ passes .eq ∧ ¬ passes .gt

theorem any_iff_or {standing : Option Ordering} {p q r : Ordering → Bool}
    (h : ∀ o, p o = (q o || r o)) :
    standing.any p = true ↔ standing.any q = true ∨ standing.any r = true := by
  cases standing with
  | none => simp
  | some o => simp [h o]

theorem not_any_of_any {standing : Option Ordering} {p q : Ordering → Bool}
    (h : ∀ o, p o = true → q o = false) (hp : standing.any p = true) :
    ¬ standing.any q = true := by
  cases standing with
  | none => simp
  | some o => simp [h o hp]

/-- What passes by a standing obeys the laws of comparison. -/
theorem Operator.laws_of_standing {passes : Operator → Prop} {standing : Option Ordering}
    (hpasses : ∀ op accepts, op.accepts? = some accepts →
      (passes op ↔ standing.any accepts = true))
    (hnull : passes .isNull → standing = none)
    (hnotNull : passes .isNotNull ↔ ¬ passes .isNull) : Laws passes := by
  have heq := hpasses .eq _ rfl
  have hgt := hpasses .gt _ rfl
  have hlt := hpasses .lt _ rfl
  refine ⟨hnotNull, ?_, ?_, ?_, ?_, ?_, ?_, ?_⟩
  · rw [hpasses .gte _ rfl, hgt, heq]
    exact any_iff_or fun o => by cases o <;> rfl
  · rw [hpasses .lte _ rfl, hlt, heq]
    exact any_iff_or fun o => by cases o <;> rfl
  · rw [hpasses .neq _ rfl, hlt, hgt]
    exact any_iff_or fun o => by cases o <;> rfl
  · rw [hlt, heq]
    exact not_any_of_any fun o => by cases o <;> simp
  · rw [hlt, hgt]
    exact not_any_of_any fun o => by cases o <;> simp
  · rw [heq, hgt]
    exact not_any_of_any fun o => by cases o <;> simp
  · intro h
    rw [hlt, heq, hgt, hnull h]
    simp

namespace Store

/-! ## Standings -/

/-- How a cell stands to another; unknown where one of them is null. -/
def Cell.standing (a b : Cell) : Option Ordering :=
  if a = .null ∨ b = .null then none else some (a.compare b)

theorem Cell.related_eq (accepts : Ordering → Bool) (a b : Cell) :
    a.related accepts b = (a.standing b).map accepts := by
  unfold related standing
  split <;> rfl

/-- What looks like a number is not null: no numeral spells what is no number. -/
theorem numberOfText?_ne_null (text : String) : numberOfText? text ≠ some .null := by
  have hdouble : ∀ d : Decimal, some (Cell.ofDouble d.toDouble) ≠ some .null := by
    intro d
    have hnan := d.toDouble_ne_nan
    cases hd : d.toDouble with
    | nan => exact absurd hd hnan
    | finite | infinite => simp [Cell.ofDouble]
  unfold numberOfText?
  split
  split
  · split
    · extract_lets i
      split
      · simp
      · exact hdouble _
    · exact hdouble _
  · simp

theorem Cell.numeralized_ne_null {c : Cell} (h : c ≠ .null) : c.numeralized ≠ .null := by
  cases c with
  | text s =>
    show (numberOfText? s).getD (.text s) ≠ .null
    cases hnumber : numberOfText? s with
    | none => simp
    | some number =>
      intro hnull
      rw [Option.getD_some] at hnull
      exact numberOfText?_ne_null s (hnumber.trans (congrArg some hnull))
  | null | int | real | blob => exact h

theorem Affinity.operand_ne_null (a : Affinity) {c : Cell} (h : c ≠ .null) :
    a.operand c ≠ .null := by
  cases a with
  | none => exact h
  | text => cases c <;> simp_all [operand, Cell.stringified]
  | numeric | integer | real => exact Cell.numeralized_ne_null h

theorem Affinity.operand_null (a : Affinity) : a.operand .null = .null := by
  cases a <;> rfl

theorem test_of_accepts {op : Operator} {accepts : Ordering → Bool}
    (h : op.accepts? = some accepts) (v : String) :
    ∃ c, op.test v = .compare c (.text v) ∧ ∀ (cell : Cell) (a : Affinity) (operand : Cell),
      cell.satisfies c a operand = (cell.standing (a.operand operand)).map accepts := by
  cases op with
  | eq | neq | gt | gte | lt | lte =>
    cases h
    refine ⟨_, rfl, ?_⟩
    intro cell a operand
    simp only [Cell.satisfies, Cell.related_eq]
  | like | ilike | isNull | isNotNull | oneOf => cases h

/-! ## Texts that are bound -/

namespace ColumnType

/-- Whether a type binds every text as it is: the types of texts and of integers do, and so does a
column without a type. -/
def keepsTexts (t : ColumnType) : Bool :=
  match t.name with
  | .bigint | .char | .integer | .smallint | .text | .varchar | .nvarchar | .untyped => true
  | _ => false

/-- Whether a type binds numbers only. -/
def bindsNumbers (t : ColumnType) : Bool :=
  match t.name with
  | .numeric | .decimal | .real | .float | .double | .doublePrecision => true
  | _ => false

/-- A cell can be compared with what a text is bound as. -/
def Compares (t : ColumnType) (v : String) : Prop := ∃ c, t.bind (.text v) = .ok c ∧ c ≠ .null

theorem bind_of_keepsTexts {t : ColumnType} (h : t.keepsTexts = true) (v : String) :
    t.bind (.text v) = .ok (.text v) := by
  obtain ⟨name, args⟩ := t
  cases name with
  | bigint | char | integer | smallint | text | varchar | nvarchar | untyped => rfl
  | numeric | decimal | real | float | double | doublePrecision => cases h
  | json | date | time | datetime | timestamp | boolean | blob => cases h

theorem compares_of_keepsTexts {t : ColumnType} (h : t.keepsTexts = true) (v : String) :
    t.Compares v :=
  ⟨.text v, bind_of_keepsTexts h v, by simp⟩

/-- A type that binds texts as they are reads every cell. -/
theorem exists_read_of_keepsTexts {t : ColumnType} (h : t.keepsTexts = true) (c : Cell) :
    ∃ d, t.read c = .ok d := by
  obtain ⟨name, args⟩ := t
  cases name with
  | bigint | char | integer | smallint | text | varchar | nvarchar | untyped => exact ⟨_, rfl⟩
  | numeric | decimal | real | float | double | doublePrecision => cases h
  | json | date | time | datetime | timestamp | boolean | blob => cases h

theorem bind_of_bindsNumbers {t : ColumnType} (h : t.bindsNumbers = true) (v : String) :
    t.bind (.text v) = (bindNumber (.text v)).map Cell.ofScalar := by
  obtain ⟨name, args⟩ := t
  cases name with
  | numeric | decimal | real | float | double | doublePrecision => rfl
  | bigint | char | integer | smallint | text | varchar | nvarchar | untyped => cases h
  | json | date | time | datetime | timestamp | boolean | blob => cases h

theorem bindNumber_text (v : String) : bindNumber (.text v) =
    (Double.ofText? v).elim (.error (.notNumber (Text.quoted v))) fun d => .ok (.real d) := by
  delta bindNumber
  dsimp only
  cases Double.ofText? v <;> rfl

theorem compares_of_bindsNumbers {t : ColumnType} (h : t.bindsNumbers = true) {v : String} :
    t.Compares v ↔ ∃ d, Double.ofText? v = some d ∧ d ≠ .nan := by
  rw [Compares, bind_of_bindsNumbers h, bindNumber_text]
  cases Double.ofText? v with
  | none => simp [Except.map]
  | some d => cases d <;> simp [Except.map, Cell.ofScalar, Cell.ofDouble]

/-- **What a text can be compared with.** A type that binds numbers takes the texts of numbers, and
no text can be compared with a truth value, a date or time, or octets. -/
theorem compares_iff (t : ColumnType) (v : String) :
    t.Compares v ↔ t.keepsTexts = true ∨ t.name = .json ∨
      t.bindsNumbers = true ∧ ∃ d, Double.ofText? v = some d ∧ d ≠ .nan := by
  by_cases hkeeps : t.keepsTexts = true
  · simp [hkeeps, compares_of_keepsTexts]
  by_cases hnumbers : t.bindsNumbers = true
  · have hjson : t.name ≠ .json := by
      intro hname
      simp [bindsNumbers, hname] at hnumbers
    rw [compares_of_bindsNumbers hnumbers]
    simp [hkeeps, hnumbers, hjson]
  · simp only [hkeeps, hnumbers, Bool.false_eq_true, false_and, false_or, or_false]
    obtain ⟨name, args⟩ := t
    cases name with
    | json => exact ⟨fun _ => rfl, fun _ => ⟨.text (Json.renderAsciiText v), rfl, by simp⟩⟩
    | date | time | datetime | timestamp | boolean | blob =>
      refine ⟨?_, fun hname => by cases hname⟩
      rintro ⟨c, hbind, -⟩
      cases hbind
    | bigint | char | integer | smallint | text | varchar | nvarchar | untyped =>
      exact absurd rfl hkeeps
    | numeric | decimal | real | float | double | doublePrecision => exact absurd rfl hnumbers

end ColumnType

/-! ## Rows that pass -/

namespace Warehouse

/-- The request for a column of the rows of a table that pass one filter on it, and for the number
of these rows. -/
def filterRequest (table column : String) (op : Operator) (v : String) : Request :=
  QueryState.pageRequest []
    { table, selectedColumns := [column],
      filters := [{ id := "", column, operator := some op, value := v }],
      pageSize_pos := defaultPageSize_pos }

/-- The rows of a table that pass one filter. -/
def passing (w : Warehouse) (table column : String) (op : Operator) (v : String) :
    List (List Cell) :=
  w.selected (filterRequest table column op v)

/-- How a row stands to the text of a filter, as the type of the column binds it. -/
def standing (w : Warehouse) (table column : String) (t : ColumnType) (v : String)
    (row : List Cell) : Option Ordering :=
  match t.bind (.text v) with
  | .ok c => ((w.tableOf table).cell column row).standing
      (((w.tableOf table).affinityOf column).operand c)
  | .error _ => none

variable {w : Warehouse} {table column : String} {t : ColumnType} {op : Operator} {v : String}
  {row : List Cell}

theorem predicates_filterRequest (hcolumn : column ≠ "") :
    (filterRequest table column op v).predicates = [{ column, test := op.test v }] := by
  have hempty : column.isEmpty = false := by simp [hcolumn]
  simp [filterRequest, QueryState.pageRequest, QueryState.predicates, Filter.predicate?, hempty,
    Registry.MandatoryFilters.ofTable, Dict.get?]

/-- A row passes a filter if it meets the test of the filter, once that is bound. -/
theorem mem_passing (hcolumn : column ≠ "")
    (htype : Dict.get? (w.columnsOf table) column = some t)
    (hrow : row ∈ (w.tableOf table).rows) :
    row ∈ w.passing table column op v ↔ ∃ test, Run.bindTest t (op.test v) = .ok test ∧
      test.selects ((w.tableOf table).affinityOf column) ((w.tableOf table).cell column row) =
        true := by
  have hmeets : w.meets table row { column, test := op.test v } = true ↔
      ∃ test, Run.bindTest t (op.test v) = .ok test ∧ test.selects
        ((w.tableOf table).affinityOf column) ((w.tableOf table).cell column row) = true := by
    rw [meets, htype, Option.map_some]
    cases Run.bindTest t (op.test v) <;> simp
  rw [passing, selected, List.mem_filter, predicates_filterRequest hcolumn]
  simp only [List.all_cons, List.all_nil, Bool.and_true]
  exact (and_congr_right fun _ => hmeets).trans (and_iff_right hrow)

/-- A row passes a filter that asks for an order if the filter accepts its standing. -/
theorem mem_passing_of_accepts (hcolumn : column ≠ "")
    (htype : Dict.get? (w.columnsOf table) column = some t)
    (hrow : row ∈ (w.tableOf table).rows) {accepts : Ordering → Bool}
    (haccepts : op.accepts? = some accepts) :
    row ∈ w.passing table column op v ↔ (w.standing table column t v row).any accepts = true := by
  obtain ⟨c, htest, hsatisfies⟩ := test_of_accepts haccepts v
  rw [mem_passing hcolumn htype hrow, htest, Run.bindTest, standing]
  cases t.bind (.text v) with
  | error f => simp [Except.map]
  | ok operand => simp [Except.map, BoundTest.selects, hsatisfies, Option.any_eq_true]

theorem mem_passing_isNull (hcolumn : column ≠ "")
    (htype : Dict.get? (w.columnsOf table) column = some t)
    (hrow : row ∈ (w.tableOf table).rows) :
    row ∈ w.passing table column .isNull v ↔ (w.tableOf table).cell column row = .null := by
  rw [mem_passing hcolumn htype hrow]
  simp [Operator.test, Run.bindTest, BoundTest.selects]

theorem mem_passing_isNotNull (hcolumn : column ≠ "")
    (htype : Dict.get? (w.columnsOf table) column = some t)
    (hrow : row ∈ (w.tableOf table).rows) :
    row ∈ w.passing table column .isNotNull v ↔ (w.tableOf table).cell column row ≠ .null := by
  rw [mem_passing hcolumn htype hrow]
  simp [Operator.test, Run.bindTest, BoundTest.selects]

theorem mem_passing_oneOf (hcolumn : column ≠ "")
    (htype : Dict.get? (w.columnsOf table) column = some t)
    (hrow : row ∈ (w.tableOf table).rows) :
    row ∈ w.passing table column .oneOf v ↔ ∃ m ∈ Text.splitList v,
      ((w.tableOf table).cell column row).standing
        (((w.tableOf table).affinityOf column).operand (.text m)) = some .eq := by
  rw [mem_passing hcolumn htype hrow]
  simp [Operator.test, Run.bindTest, BoundTest.selects, Cell.satisfies, Cell.related_eq,
    Cell.ofScalar]

/-- A row has a standing unless its cell is null or there is nothing to compare it with. -/
theorem standing_eq_none_iff : w.standing table column t v row = none ↔
    (w.tableOf table).cell column row = .null ∨ ¬ t.Compares v := by
  unfold standing
  cases hbind : t.bind (.text v) with
  | error f => simp [ColumnType.Compares, hbind]
  | ok c =>
    have hcompares : t.Compares v ↔ c ≠ .null := by simp [ColumnType.Compares, hbind]
    rw [hcompares]
    by_cases hc : c = .null
    · simp [hc, Affinity.operand_null, Cell.standing]
    · simp [hc, Affinity.operand_ne_null, Cell.standing]

/-! ## Answers -/

theorem compiled_filterRequest : ∀ p ∈ (filterRequest table column op v).predicates,
    p.test.Compiled :=
  QueryState.compiled_predicates _ _

/-- Where a column is known, so is all that the request for its rows mentions. -/
theorem firstFault_filterRequest (hw : w.Current) (hcolumn : column ≠ "")
    (htype : Dict.get? (w.columnsOf table) column = some t) :
    w.firstFault (w.mentions (filterRequest table column op v)) = none := by
  have htable : w.knows (.table table) = true := by
    cases hfind : w.database.find table with
    | nothing =>
      have hunknown : w.reflection table = .error (.unknownTable table) := by
        rw [hw.same, Database.reflect, Database.relation, hfind]
        rfl
      rw [columnsOf, hunknown] at htype
      cases htype
    | baseMissing base => exact absurd hfind (hw.whole table base)
    | relation columns rows => simp [knows, hfind]
  have hknown : w.knows (.column table column table) = true := by
    rw [knows, Dict.contains_iff_mem_keys]
    exact Dict.mem_keys_of_mem (Dict.mem_of_get? htype)
  have hmentions : w.mentions (filterRequest table column op v) =
      [.table table, .column table column table, .column table column table] := by
    rw [mentions, predicates_filterRequest hcolumn]
    rfl
  rw [hmentions, firstFault_of_known htable, firstFault_of_known hknown,
    firstFault_of_known hknown]
  rfl

theorem firstUnbindable_filterRequest (hcolumn : column ≠ "")
    (htype : Dict.get? (w.columnsOf table) column = some t) (op : Operator) (v : String) :
    (∀ f, Run.bindTest t (op.test v) = .error f →
      w.firstUnbindable (filterRequest table column op v) = some (.unbindable f)) ∧
    ∀ test, Run.bindTest t (op.test v) = .ok test →
      w.firstUnbindable (filterRequest table column op v) = none := by
  have htable : (filterRequest table column op v).table = table := rfl
  rw [firstUnbindable, predicates_filterRequest hcolumn, List.findSome?_cons, bindFault?, htable,
    htype]
  constructor
  · intro f hf
    simp [hf]
  · intro test htest
    simp [htest]

/-- Nothing goes wrong with the rows that pass a filter where the cells of the column can be
read. -/
theorem not_answerFault_filterRequest (hcolumn : column ≠ "")
    (htype : Dict.get? (w.columnsOf table) column = some t)
    (hreads : ∀ row ∈ (w.tableOf table).rows,
      ∃ d, t.read ((w.tableOf table).cell column row) = .ok d) (f : RunFault) :
    ¬ w.AnswerFault (filterRequest table column op v) f := by
  intro hfault
  cases f with
  | reported f =>
    obtain ⟨label, hmany, -⟩ := hfault
    have hlabels : w.labelsOf (filterRequest table column op v) = [column] := rfl
    rw [hlabels] at hmany
    have hone := List.nodup_iff_count_le_one.1 (List.nodup_singleton column) label
    omega
  | failed f =>
    rcases hfault with ⟨table', name, t', hasks, htype', row, hrow, fault, hbad, -⟩ |
      ⟨-, p, hp, c, i, htest, -⟩
    · rcases hasks with ⟨rfl, hname⟩ | ⟨e, he, -⟩
      · have hcolumn' : name = column := List.mem_singleton.1 hname
        subst hcolumn'
        cases htype.symm.trans htype'
        obtain ⟨d, hd⟩ := hreads row hrow
        cases hd.symm.trans hbad
      · cases he
    · rw [predicates_filterRequest hcolumn, List.mem_singleton] at hp
      subst hp
      cases op <;> cases htest

/-- **The request for the rows that pass a filter is answered** with the fault of the value, if it
cannot be bound, and else with the number of these rows, if the cells of the column can be read. -/
theorem query_filterRequest (hw : w.Current) (hcolumn : column ≠ "")
    (htype : Dict.get? (w.columnsOf table) column = some t) :
    (∀ f, Run.bindTest t (op.test v) = .error f →
      (w.query (filterRequest table column op v)).1 =
        .ok { error := some (QueryFault.unbindable f).report }) ∧
    ∀ test, Run.bindTest t (op.test v) = .ok test →
      (∀ row ∈ (w.tableOf table).rows,
        ∃ d, t.read ((w.tableOf table).cell column row) = .ok d) →
      ∃ response, (w.query (filterRequest table column op v)).1 = .ok response ∧
        response.error = none ∧
        response.count = some ((w.passing table column op v).length : Int) := by
  have hmentions : w.firstFault (w.mentions (filterRequest table column op v)) = none :=
    firstFault_filterRequest hw hcolumn htype
  obtain ⟨hfault, hnone⟩ := firstUnbindable_filterRequest hcolumn htype op v
  refine ⟨fun f hf => hw.query_of_unbindable compiled_filterRequest hmentions (hfault f hf), ?_⟩
  intro test htest hreads
  obtain ⟨conditions, q, hprepared⟩ :=
    hw.exists_prepared compiled_filterRequest hmentions (hnone test htest)
  have hdistinct : w.Distinct (filterRequest table column op v) :=
    ⟨List.nodup_singleton column, nofun⟩
  have hrange : ∀ range, (filterRequest table column op v).range = some range →
      fits range.start = true ∧ fits range.limit = true := by
    intro range hrange
    have hpage : (filterRequest table column op v).range = some { start := 0, last := 49 } := rfl
    rw [hpage] at hrange
    cases hrange
    decide
  have hwhy := answerFault_of_prepared hw compiled_filterRequest hrange hdistinct hprepared
  obtain ⟨_, hquery, -⟩ := w.query_eq (filterRequest table column op v)
  rw [hquery, answer_of_prepared hprepared]
  cases hanswer : q.answer conditions (filterRequest table column op v).range
      (filterRequest table column op v).countExact with
  | ok response =>
    refine ⟨response, rfl, (Run.reads_of_answer hanswer).2.2, ?_⟩
    rw [Run.count_of_answer hanswer, hw.selected_of_prepared hprepared]
    rfl
  | error f =>
    exact absurd (hwhy f hanswer) (not_answerFault_filterRequest hcolumn htype hreads f)

/-- **The filters of a column compare.** The request for the rows that pass a filter is answered
with the fault of the value, if it cannot be bound, and else with their number, if the cells of the
column can be read. For every column, the filters by one value obey the laws of comparison, and
where something can be compared with the value, every row passes one of less, equal, greater and
empty; otherwise no row passes the first three. A list finds the rows that are equal to one of its
members as it is, and where texts are bound as they are these are the rows that pass the equality
with a member.

The limits of SQLite are left out: a statement has at most 32766 bound values, or 250000 in some
builds, and a pattern at most `maxPatternSize` octets. -/
theorem filters_compare (hcolumn : column ≠ "")
    (htype : Dict.get? (w.columnsOf table) column = some t) :
    (w.Current → ∀ op v,
      (∀ f, Run.bindTest t (op.test v) = .error f →
        (w.query (filterRequest table column op v)).1 =
          .ok { error := some (QueryFault.unbindable f).report }) ∧
      ∀ test, Run.bindTest t (op.test v) = .ok test →
        (∀ row ∈ (w.tableOf table).rows,
          ∃ d, t.read ((w.tableOf table).cell column row) = .ok d) →
        ∃ response, (w.query (filterRequest table column op v)).1 = .ok response ∧
          response.error = none ∧
          response.count = some ((w.passing table column op v).length : Int)) ∧
    ∀ row ∈ (w.tableOf table).rows,
      (∀ v, Operator.Laws fun op => row ∈ w.passing table column op v) ∧
      (∀ v, t.Compares v → row ∈ w.passing table column .lt v ∨
        row ∈ w.passing table column .eq v ∨ row ∈ w.passing table column .gt v ∨
        row ∈ w.passing table column .isNull v) ∧
      (∀ v, ¬ t.Compares v → row ∉ w.passing table column .lt v ∧
        row ∉ w.passing table column .eq v ∧ row ∉ w.passing table column .gt v) ∧
      (∀ v, row ∈ w.passing table column .eq v ↔ ∃ c, t.bind (.text v) = .ok c ∧
        ((w.tableOf table).cell column row).standing
          (((w.tableOf table).affinityOf column).operand c) = some .eq) ∧
      (∀ v, row ∈ w.passing table column .oneOf v ↔ ∃ m ∈ Text.splitList v,
        ((w.tableOf table).cell column row).standing
          (((w.tableOf table).affinityOf column).operand (.text m)) = some .eq) ∧
      (t.keepsTexts = true → ∀ v, t.Compares v ∧ (row ∈ w.passing table column .oneOf v ↔
        ∃ m ∈ Text.splitList v, row ∈ w.passing table column .eq m)) := by
  constructor
  · intro hw op v
    exact query_filterRequest hw hcolumn htype
  · intro row hrow
    -- All that is asked of a value is asked of where the row stands to it.
    have hpasses : ∀ v op accepts, op.accepts? = some accepts →
        (row ∈ w.passing table column op v ↔
          (w.standing table column t v row).any accepts = true) :=
      fun v op accepts haccepts => mem_passing_of_accepts hcolumn htype hrow haccepts
    have hnull : ∀ v, row ∈ w.passing table column .isNull v ↔
        (w.tableOf table).cell column row = .null := fun v => mem_passing_isNull hcolumn htype hrow
    refine ⟨?_, ?_, ?_, ?_, fun v => mem_passing_oneOf hcolumn htype hrow, ?_⟩
    · intro v
      refine Operator.laws_of_standing (hpasses v) ?_ ?_
      · intro hisNull
        exact standing_eq_none_iff.2 (.inl ((hnull v).1 hisNull))
      · rw [hnull, mem_passing_isNotNull hcolumn htype hrow]
    · intro v hcompares
      rw [hnull, hpasses v .lt _ rfl, hpasses v .eq _ rfl, hpasses v .gt _ rfl]
      cases hstanding : w.standing table column t v row with
      | none =>
        rcases standing_eq_none_iff.1 hstanding with hcell | hnot
        · exact .inr (.inr (.inr hcell))
        · exact absurd hcompares hnot
      | some o => cases o <;> simp
    · intro v hnot
      rw [hpasses v .lt _ rfl, hpasses v .eq _ rfl, hpasses v .gt _ rfl,
        standing_eq_none_iff.2 (.inr hnot)]
      simp
    · intro v
      rw [hpasses v .eq _ rfl, standing]
      cases t.bind (.text v) <;> simp [Option.any_eq_true]
    · intro hkeeps v
      refine ⟨ColumnType.compares_of_keepsTexts hkeeps v, ?_⟩
      rw [mem_passing_oneOf hcolumn htype hrow]
      refine exists_congr fun m => and_congr_right fun _ => ?_
      rw [hpasses m .eq _ rfl, standing, ColumnType.bind_of_keepsTexts hkeeps]
      simp [Option.any_eq_true]

/-- A table with a day. -/
def days : Warehouse where
  database := Database.create {} "t" [{ name := "d", declared := "DATE" }] [[.text "2024-01-01"]]

/-- No text can be compared with a day, and yet a list finds it. -/
theorem filters_compare_days :
    let w := days
    ("d" ≠ "" ∧ Dict.get? (w.columnsOf "t") "d" = some { name := .date } ∧ w.Current) ∧
    (w.query (filterRequest "t" "d" .eq "2024-01-01")).1 = .ok {
      error := some "SQLite Date type only accepts Python date objects as input." } ∧
    (∃ response, (w.query (filterRequest "t" "d" .oneOf "2024-01-01")).1 = .ok response ∧
      response.error = none ∧ response.count = some 1) ∧
    ∀ v, [.text "2024-01-01"] ∉ w.passing "t" "d" .lt v ∧
      [.text "2024-01-01"] ∉ w.passing "t" "d" .eq v ∧
      [.text "2024-01-01"] ∉ w.passing "t" "d" .gt v := by
  intro w
  have hcolumn : "d" ≠ "" := by decide
  have htype : Dict.get? (w.columnsOf "t") "d" = some { name := .date } := by decide +kernel
  have hcurrent : w.Current := current_of_no_views rfl Registry.knownJoins
  have hrow : [.text "2024-01-01"] ∈ (w.tableOf "t").rows := by decide +kernel
  have hreport : (QueryFault.unbindable .notDate).report =
      "SQLite Date type only accepts Python date objects as input." := by decide +kernel
  have hreads : ∀ row ∈ (w.tableOf "t").rows, (({ name := .date } : ColumnType).read
      ((w.tableOf "t").cell "d" row)).toOption.isSome := by decide +kernel
  have hone : (w.passing "t" "d" .oneOf "2024-01-01").length = 1 := by decide +kernel
  obtain ⟨hanswer, hcompare⟩ := filters_compare hcolumn htype
  refine ⟨⟨hcolumn, htype, hcurrent⟩, ?_, ?_, ?_⟩
  · rw [← hreport]
    exact (hanswer hcurrent .eq "2024-01-01").1 _ rfl
  · rw [show (1 : Int) = ((1 : Nat) : Int) from rfl, ← hone]
    refine (hanswer hcurrent .oneOf "2024-01-01").2 _ rfl ?_
    intro row hrow
    have hread := hreads row hrow
    cases hcell : ({ name := .date } : ColumnType).read ((w.tableOf "t").cell "d" row) with
    | error f => rw [hcell] at hread; cases hread
    | ok d => exact ⟨d, rfl⟩
  · intro v
    obtain ⟨-, -, hincomparable, -⟩ := hcompare _ hrow
    refine hincomparable v ?_
    simp [ColumnType.compares_iff, ColumnType.keepsTexts, ColumnType.bindsNumbers]

end Warehouse

end Store

end TableExplorer
