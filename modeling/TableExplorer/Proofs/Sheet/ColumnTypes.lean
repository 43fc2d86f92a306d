import TableExplorer.Proofs.Sheet.Columns

/-!
# The types of columns

The scan that finds the type of a column stops at the first cell that settles it (`Settled`): a
text, a list or a record, or an integer that leaves the integers before the first null without a
common type of 64 bits. Until then its flags describe the cells that were seen (`Seen.Of`).

From this follows what the type does to integers. The scan fails exactly if it meets an integer
beyond the range of the doubles (`MeetsOversized`), and a column with integers becomes one of
doubles exactly if nothing keeps its integers (`KeepsIntegers`).

Main results: `columnType_fails_iff`, `columnType_eq_doubles_iff` and `Csv.exists_render_iff`.
-/

namespace TableExplorer.Sheet

/-! ## Kinds of cells -/

namespace Cell

def int? : Cell → Option Int
  | value (.int i) => some i
  | _ => none

def isInt (c : Cell) : Bool := c.int?.isSome

def isNull : Cell → Bool
  | value .null => true
  | _ => false

/-- Whether a cell is missing, or holds a double that is no number. -/
def isMissing : Cell → Bool
  | missing => true
  | value (.real .nan) => true
  | _ => false

def isBool : Cell → Bool
  | value (.bool _) => true
  | _ => false

/-- Whether a cell holds a double that is a number. -/
def isDouble : Cell → Bool
  | value (.real .nan) => false
  | value (.real _) => true
  | _ => false

def isOther : Cell → Bool
  | value (.text _) => true
  | value (.list _) => true
  | value (.record _) => true
  | _ => false

end Cell

/-! ## What keeps integers -/

/-- The integers before the first null. -/
def leadingIntegers : List Cell → List Int
  | [] => []
  | c :: cs => if c.isNull then [] else c.int?.toList ++ leadingIntegers cs

/-- Whether integers have a common type of 64 bits, signed or unsigned. -/
def FitWord (is : List Int) : Prop :=
  (∀ i ∈ is, minSigned ≤ i ∧ i ≤ maxSigned) ∨ ∀ i ∈ is, 0 ≤ i ∧ i ≤ maxUnsigned

/-- Whether cells keep a column as it is, whatever comes behind them. -/
def Settled (cells : List Cell) : Prop :=
  cells.any Cell.isOther = true ∨ ¬FitWord (leadingIntegers cells)

/-- Whether a column keeps its integers: it is settled, or has a boolean, or has integers only. -/
def KeepsIntegers (cells : List Cell) : Prop :=
  Settled cells ∨ cells.any Cell.isBool = true ∨ cells.all Cell.isInt = true

theorem leadingIntegers_snoc (cells : List Cell) (c : Cell) :
    leadingIntegers (cells ++ [c]) =
      leadingIntegers cells ++ if cells.any Cell.isNull then [] else c.int?.toList := by
  induction cells with
  | nil => rcases c with _ | (_ | _ | _ | _ | _ | _ | _) <;> rfl
  | cons d cells ih => by_cases hd : d.isNull <;> simp [leadingIntegers, hd, ih]

theorem minSigned_le_zero : minSigned ≤ 0 := by decide

theorem maxSigned_le_maxUnsigned : maxSigned ≤ maxUnsigned := by decide

theorem fitWord_iff (is : List Int) :
    FitWord is ↔ (∀ i ∈ is, minSigned ≤ i ∧ i ≤ maxUnsigned) ∧
      ¬(is.any (· < 0) = true ∧ is.any (maxSigned < ·) = true) := by
  simp only [FitWord, List.any_eq_true, decide_eq_true_eq]
  constructor
  · rintro (h | h)
    · refine ⟨fun i hi => ⟨(h i hi).1, Int.le_trans (h i hi).2 maxSigned_le_maxUnsigned⟩, ?_⟩
      rintro ⟨-, i, hi, hlarge⟩
      exact absurd (h i hi).2 (Int.not_le.2 hlarge)
    · refine ⟨fun i hi => ⟨Int.le_trans minSigned_le_zero (h i hi).1, (h i hi).2⟩, ?_⟩
      rintro ⟨⟨i, hi, hneg⟩, -⟩
      exact absurd (h i hi).1 (Int.not_le.2 hneg)
  · rintro ⟨hrange, hnot⟩
    by_cases hneg : ∃ i ∈ is, i < 0
    · refine .inl fun i hi => ⟨(hrange i hi).1, ?_⟩
      by_contra hlarge
      exact hnot ⟨hneg, i, hi, Int.not_le.1 hlarge⟩
    · refine .inr fun i hi => ⟨?_, (hrange i hi).2⟩
      by_contra hlow
      exact hneg ⟨i, hi, Int.not_le.1 hlow⟩

theorem Settled.snoc {cells : List Cell} (h : Settled cells) (c : Cell) :
    Settled (cells ++ [c]) := by
  rcases h with h | h
  · exact .inl (by simp [h])
  · refine .inr fun hfits => h ?_
    rw [leadingIntegers_snoc] at hfits
    rcases hfits with hfits | hfits
    · exact .inl fun i hi => hfits i (List.mem_append_left _ hi)
    · exact .inr fun i hi => hfits i (List.mem_append_left _ hi)

theorem Settled.append {cells : List Cell} (h : Settled cells) (more : List Cell) :
    Settled (cells ++ more) := by
  induction more generalizing cells with
  | nil => simpa using h
  | cons c more ih => simpa using ih (h.snoc c)

/-! ## The scan -/

/-- The flags of a scan describe the cells that were seen, none of which has settled the column. -/
structure Seen.Of (s : Seen) (cells : List Cell) : Prop where
  null : s.null = cells.any Cell.isNull
  missing : s.missing = cells.any Cell.isMissing
  boolean : s.boolean = cells.any Cell.isBool
  double : s.double = cells.any Cell.isDouble
  integer : s.integer = cells.any Cell.isInt
  negative : s.negative = (leadingIntegers cells).any (· < 0)
  large : s.large = (leadingIntegers cells).any (maxSigned < ·)
  other : s.other = false
  unsettled : ¬Settled cells

namespace Seen

variable {s t : Seen} {seen cells : List Cell} {c : Cell}

theorem of_nil : Seen.Of {} [] where
  null := rfl
  missing := rfl
  boolean := rfl
  double := rfl
  integer := rfl
  negative := rfl
  large := rfl
  other := rfl
  unsettled := by simp [Settled, leadingIntegers, FitWord]

theorem Of.add_of_not_int (h : s.Of seen) (hint : c.int? = none) :
    ((s.add c).other = true ∧ Settled (seen ++ [c])) ∨ (s.add c).Of (seen ++ [c]) := by
  have hleading : leadingIntegers (seen ++ [c]) = leadingIntegers seen := by
    simp [leadingIntegers_snoc, hint]
  have hopen := h.unsettled
  by_cases hother : c.isOther
  · refine .inl ⟨?_, .inl (by simp [hother])⟩
    rcases c with _ | (_ | _ | _ | _ | _ | _ | _) <;> simp_all [Cell.isOther, add]
  · have hunsettled : ¬Settled (seen ++ [c]) := by
      simp only [Settled, hleading, List.any_append] at hopen ⊢
      simpa [hother] using hopen
    refine .inr ?_
    obtain ⟨hnull, hmissing, hboolean, hdouble, hinteger, hnegative, hlarge, hnone, -⟩ := h
    rcases c with _ | (_ | _ | _ | d | _ | _ | _)
    case value.int => cases hint
    case value.real =>
      cases d <;> constructor <;> simp_all [add, Cell.isNull, Cell.isMissing, Cell.isBool,
        Cell.isDouble, Cell.isInt, Cell.int?]
    all_goals
      first
      | exact absurd rfl hother
      | constructor <;> simp_all [add, Cell.isNull, Cell.isMissing, Cell.isBool, Cell.isDouble,
          Cell.isInt, Cell.int?]

/-- An integer behind others with a common type settles the column if it has none with them. -/
theorem other_addInteger {is : List Int} {i : Int} (hnull : s.null = false)
    (hnegative : s.negative = is.any (· < 0)) (hlarge : s.large = is.any (maxSigned < ·))
    (hfit : FitWord is) (hfits : ¬FitWord (is ++ [i])) : (s.addInteger i).other = true := by
  have hrange := ((fitWord_iff is).1 hfit).1
  rw [fitWord_iff] at hfits
  by_cases hlow : i < minSigned
  · simp [addInteger, hnull, hlow]
  · by_cases hhigh : maxUnsigned < i
    · simp [addInteger, hnull, hhigh]
    · have hboth : ((is ++ [i]).any (· < 0) && (is ++ [i]).any (maxSigned < ·)) = true := by
        by_contra hnot
        refine hfits ⟨?_, by simpa using hnot⟩
        intro j hj
        rcases List.mem_append.1 hj with hj | hj
        · exact hrange j hj
        · rw [List.mem_singleton.1 hj]
          exact ⟨Int.not_lt.1 hlow, Int.not_lt.1 hhigh⟩
      simp_all [addInteger]

/-- An integer either leaves the integers without a common type, or its range is noted. -/
theorem Of.add_of_int (h : s.Of seen) (i : Int) :
    ((s.add (.value (.int i))).other = true ∧ Settled (seen ++ [.value (.int i)])) ∨
      (s.add (.value (.int i))).Of (seen ++ [.value (.int i)]) := by
  have hopen := h.unsettled
  obtain ⟨hnull, hmissing, hboolean, hdouble, hinteger, hnegative, hlarge, hnone, -⟩ := h
  by_cases hbehind : seen.any Cell.isNull
  · -- Behind a null the range of an integer does not count.
    have hleading : leadingIntegers (seen ++ [.value (.int i)]) = leadingIntegers seen := by
      simp [leadingIntegers_snoc, hbehind]
    refine .inr ?_
    constructor <;> simp_all [add, addInteger, Settled, Cell.isNull, Cell.isMissing, Cell.isBool,
      Cell.isDouble, Cell.isInt, Cell.isOther, Cell.int?]
  · have hleading : leadingIntegers (seen ++ [.value (.int i)]) = leadingIntegers seen ++ [i] := by
      simp [leadingIntegers_snoc, hbehind, Cell.int?]
    by_cases hfits : FitWord (leadingIntegers (seen ++ [.value (.int i)]))
    · have hopen' : ¬Settled (seen ++ [.value (.int i)]) := by
        simp_all [Settled, Cell.isOther]
      rw [hleading, fitWord_iff] at hfits
      obtain ⟨hrange, hboth⟩ := hfits
      have hi := hrange i (by simp)
      simp only [List.any_append, List.any_cons, List.any_nil, Bool.or_false] at hboth
      refine .inr ?_
      constructor <;> simp_all [add, addInteger, Cell.isNull, Cell.isMissing, Cell.isBool,
        Cell.isDouble, Cell.isInt, Cell.int?]
    · have hfit : FitWord (leadingIntegers seen) := by
        by_contra hnot
        exact hopen (.inr hnot)
      have hother := other_addInteger (by simpa [hbehind] using hnull) hnegative hlarge hfit
        (by rwa [hleading] at hfits)
      exact .inl ⟨hother, .inr hfits⟩

/-- A cell either settles the column, which ends the scan, or the flags describe it too. -/
theorem Of.add (h : s.Of seen) (c : Cell) :
    ((s.add c).other = true ∧ Settled (seen ++ [c])) ∨ (s.add c).Of (seen ++ [c]) := by
  cases hint : c.int? with
  | none => exact h.add_of_not_int hint
  | some i =>
    rcases c with _ | (_ | _ | _ | _ | _ | _ | _)
    case value.int => exact h.add_of_int _
    all_goals cases hint

theorem Of.ofCells (h : s.Of seen) (hok : s.ofCells cells = .ok t) :
    (t.other = true ∧ Settled (seen ++ cells)) ∨ t.Of (seen ++ cells) := by
  induction cells generalizing s seen with
  | nil =>
    cases hok
    simpa using .inr h
  | cons c cells ih =>
    simp only [Seen.ofCells] at hok
    split at hok
    · cases hok
    · split at hok
      · next hother =>
        cases hok
        rcases h.add c with ⟨-, hsettled⟩ | hof
        · exact .inl ⟨hother, by simpa using hsettled.append cells⟩
        · simp [hof.other] at hother
      · next hother =>
        rcases h.add c with ⟨hsettled, -⟩ | hof
        · exact absurd hsettled hother
        · simpa using ih hof hok

end Seen

/-! ## Oversized integers -/

/-- Whether a scan that has seen some cells meets an integer beyond the range of the doubles before
the column is settled. -/
def MeetsOversized (seen cells : List Cell) : Prop :=
  ∃ before i after, cells = before ++ .value (.int i) :: after ∧
    (Double.ofInt i).isFinite = false ∧ ¬Settled (seen ++ before)

theorem Cell.oversized?_eq_some {c : Cell} {f : Fault} (h : c.oversized? = some f) :
    ∃ i, c = .value (.int i) ∧ (Double.ofInt i).isFinite = false := by
  rcases c with _ | (_ | _ | i | _ | _ | _ | _)
  case value.int =>
    refine ⟨i, rfl, ?_⟩
    by_contra hfinite
    simp [oversized?, hfinite] at h
  all_goals cases h

theorem Cell.oversized?_int {i : Int} (h : (Double.ofInt i).isFinite = false) :
    Cell.oversized? (.value (.int i)) = some (.oversized i) := by
  simp [oversized?, h]

theorem MeetsOversized.exists_row {rows : List Row} {name : String} {seen : List Cell}
    (h : MeetsOversized seen (cellsOf rows name)) :
    ∃ row ∈ rows, ∃ i, cellOf row name = .value (.int i) ∧ (Double.ofInt i).isFinite = false := by
  obtain ⟨before, i, after, heq, hsize, -⟩ := h
  have hmem : .value (.int i) ∈ cellsOf rows name := by
    rw [heq]
    simp
  obtain ⟨row, hrow, hcell⟩ := List.mem_map.1 hmem
  exact ⟨row, hrow, i, hcell, hsize⟩

theorem not_meetsOversized_of_settled {seen : List Cell} (h : Settled seen) (cells : List Cell) :
    ¬MeetsOversized seen cells := by
  rintro ⟨before, i, after, -, -, hopen⟩
  exact hopen (h.append before)

theorem meetsOversized_cons_of_none {c : Cell} (hsize : c.oversized? = none)
    (seen cells : List Cell) :
    MeetsOversized seen (c :: cells) ↔ MeetsOversized (seen ++ [c]) cells := by
  constructor
  · rintro ⟨_ | ⟨d, before⟩, i, after, heq, hi, hopen⟩
    · obtain ⟨rfl, -⟩ := List.cons.inj heq
      rw [Cell.oversized?_int hi] at hsize
      cases hsize
    · obtain ⟨rfl, hrest⟩ := List.cons.inj heq
      exact ⟨before, i, after, hrest, hi, by simpa using hopen⟩
  · rintro ⟨before, i, after, rfl, hi, hopen⟩
    exact ⟨c :: before, i, after, rfl, hi, by simpa using hopen⟩

/-- The scan of a column fails exactly if it meets an oversized integer. -/
theorem Seen.Of.ofCells_fails_iff {s : Seen} {seen cells : List Cell} (h : s.Of seen) :
    (∃ f, s.ofCells cells = .error f) ↔ MeetsOversized seen cells := by
  induction cells generalizing s seen with
  | nil => simp [Seen.ofCells, MeetsOversized]
  | cons c cells ih =>
    cases hsize : c.oversized? with
    | some f =>
      have hfails : s.ofCells (c :: cells) = .error f := by simp only [Seen.ofCells, hsize]
      obtain ⟨i, rfl, hi⟩ := Cell.oversized?_eq_some hsize
      have hopen : ¬Settled (seen ++ []) := by simpa using h.unsettled
      exact ⟨fun _ => ⟨[], i, cells, rfl, hi, hopen⟩, fun _ => ⟨f, hfails⟩⟩
    | none =>
      rw [meetsOversized_cons_of_none hsize]
      simp only [Seen.ofCells, hsize]
      rcases h.add c with ⟨hother, hsettled⟩ | hof
      · simp [hother, not_meetsOversized_of_settled hsettled]
      · simpa [hof.other] using ih hof

theorem columnType_fails_iff (cells : List Cell) :
    (∃ f, columnType cells = .error f) ↔ MeetsOversized [] cells := by
  rw [← Seen.of_nil.ofCells_fails_iff, columnType]
  cases Seen.ofCells {} cells <;> simp [Except.map]

/-! ## The type of a column with integers -/

theorem Cell.isInt_eq (c : Cell) :
    c.isInt = !(c.isNull || c.isMissing || c.isBool || c.isDouble || c.isOther) := by
  rcases c with _ | (_ | _ | _ | d | _ | _ | _)
  case value.real => cases d <;> rfl
  all_goals rfl

theorem all_isInt (cells : List Cell) :
    cells.all Cell.isInt = !(cells.any Cell.isNull || cells.any Cell.isMissing ||
      cells.any Cell.isBool || cells.any Cell.isDouble || cells.any Cell.isOther) := by
  induction cells with
  | nil => rfl
  | cons c cells ih =>
    simp only [List.all_cons, List.any_cons, ih, Cell.isInt_eq]
    grind

/-- A column with integers is one of doubles exactly if nothing keeps its integers. -/
theorem columnType_eq_doubles_iff {cells : List Cell} {t : ColumnType}
    (h : columnType cells = .ok t) (hint : cells.any Cell.isInt = true) :
    t = .doubles ↔ ¬KeepsIntegers cells := by
  obtain ⟨s, hscan, rfl⟩ := map_eq_ok.1 h
  have hend := Seen.of_nil.ofCells hscan
  simp only [List.nil_append] at hend
  rcases hend with ⟨hother, hsettled⟩ | hof
  · simp [Seen.columnType, hother, KeepsIntegers, hsettled]
  · have hopen := hof.unsettled
    have hothers : cells.any Cell.isOther = false := by
      by_contra hany
      exact hopen (.inl (by simpa using hany))
    simp only [KeepsIntegers, hopen, false_or, all_isInt, hothers, Seen.columnType, hof.other,
      hof.null, hof.missing, hof.boolean, hof.double, hof.integer, hint]
    grind

/-! ## Files -/

theorem exists_columnOf_iff (rows : List Row) (name : String) :
    (∃ c, columnOf rows name = .ok c) ↔ ¬MeetsOversized [] (cellsOf rows name) := by
  rw [← columnType_fails_iff, columnOf, typedCells, ← cellsOf]
  cases columnType (cellsOf rows name) <;> simp [Except.map]

theorem Csv.exists_render_iff (rows : List Row) :
    (∃ file, render rows = .ok file) ↔
      ∀ name ∈ columnNames rows, ¬MeetsOversized [] (cellsOf rows name) := by
  simp only [← exists_columnOf_iff]
  constructor
  · rintro ⟨file, hfile⟩ name hname
    obtain ⟨columns, hcolumns, -⟩ := map_eq_ok.1 hfile
    obtain ⟨c, -, hc⟩ := exists_of_mem_left (mapM_eq_ok.1 hcolumns) hname
    exact ⟨c, hc⟩
  · intro h
    obtain ⟨columns, hcolumns⟩ := exists_mapM_eq_ok h
    exact ⟨_, map_eq_ok.2 ⟨columns, hcolumns, rfl⟩⟩

end TableExplorer.Sheet
