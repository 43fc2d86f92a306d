import TableExplorer.Json.Writer
import TableExplorer.Proofs.Sheet.ColumnTypes

/-!
# Integers in files

How an integer is written depends on the type of its whole column. It is written as it is, unless
the column becomes one of doubles; then it is written as the double nearest to it, with a point or
an exponent, and beyond 2⁵³ perhaps as another number. The two notations never agree, because the
text of a double holds a point or a letter.

Main result: `Csv.integers_kept_iff`.
-/

namespace TableExplorer.Sheet

/-! ## Texts of numbers -/

/-- Whether a character occurs in the texts of doubles only: the point, or a letter. -/
def marksDouble (c : Char) : Prop := c = '.' ∨ c = 'e' ∨ c = 'n'

theorem not_marksDouble_of_isDigit {c : Char} (h : c.isDigit = true) : ¬marksDouble c := by
  rintro (rfl | rfl | rfl) <;> cases h

theorem not_marksDouble_ofInt {i : Int} {c : Char} (hc : c ∈ (Text.ofInt i).toList) :
    ¬marksDouble c := by
  have hdigit : ∀ d ∈ (Nat.repr i.natAbs).toList, ¬marksDouble d := by
    intro d hd
    rw [Nat.toList_repr] at hd
    exact not_marksDouble_of_isDigit (Nat.isDigit_of_mem_toDigits (by omega) (by omega) hd)
  unfold Text.ofInt at hc
  split at hc
  · rw [String.toList_append, List.mem_append] at hc
    rcases hc with hc | hc
    · simp [marksDouble] at hc ⊢
      simp [hc]
    · exact hdigit c hc
  · exact hdigit c hc

/-- Whether a text is one of a double. -/
def IsMarked (s : String) : Prop := ∃ c ∈ s.toList, marksDouble c

namespace IsMarked

theorem append_left {s : String} (h : IsMarked s) (t : String) : IsMarked (s ++ t) := by
  obtain ⟨c, hc, hmarks⟩ := h
  exact ⟨c, by simp [hc], hmarks⟩

theorem append_right (s : String) {t : String} (h : IsMarked t) : IsMarked (s ++ t) := by
  obtain ⟨c, hc, hmarks⟩ := h
  exact ⟨c, by simp [hc], hmarks⟩

theorem point {cs : List Char} (h : '.' ∈ cs) : IsMarked (String.ofList cs) :=
  ⟨'.', by simpa using h, .inl rfl⟩

theorem withSign (negative : Bool) {s : String} (h : IsMarked s) :
    IsMarked (Double.withSign negative s) := by
  cases negative with
  | false => exact h
  | true => exact h.append_right "-"

theorem render {l : Double.Layout} (hpoint : l.wholePoint = true) (d : Double.Digits) :
    IsMarked (l.render d) := by
  unfold Double.Layout.render
  extract_lets ds whole filled fraction rest
  split
  · split
    · exact point (by simp)
    · apply append_right
      split
      · simp [IsMarked, marksDouble]
      · exact point (by simp)
  · apply append_right
    unfold Double.exponentText
    apply append_left
    split <;> simp [IsMarked, marksDouble]

end IsMarked

/-- A double is written with a point, an exponent or a word. -/
theorem isMarked_text (d : Double) : IsMarked d.text := by
  cases d with
  | nan => simp [Double.text, IsMarked, marksDouble]
  | infinite negative => exact .withSign negative (by simp [IsMarked, marksDouble])
  | finite negative units =>
    refine .withSign negative ?_
    split
    · simp [IsMarked, marksDouble]
    · exact .render rfl _

theorem text_ne_ofInt (d : Double) (i : Int) : d.text ≠ Text.ofInt i := by
  intro heq
  obtain ⟨c, hc, hmarks⟩ := isMarked_text d
  rw [heq] at hc
  exact not_marksDouble_ofInt hc hmarks

/-! ## Integers in a file -/

namespace Csv

theorem cellText_real {d : Double} (h : d ≠ .nan) : cellText (.value (.real d)) = d.text := by
  cases d with
  | nan => exact absurd rfl h
  | finite | infinite => rfl

theorem cellText_cast_int (t : ColumnType) (n : Int) :
    cellText (t.cast (.value (.int n))) =
      if t = .doubles then (Double.ofInt n).text else Text.ofInt n := by
  by_cases hdoubles : t = .doubles
  · rw [if_pos hdoubles, hdoubles]
    exact cellText_real (Double.ofUnits_ne_nan _ _ _)
  · rw [if_neg hdoubles]
    cases t <;> first | exact absurd rfl hdoubles | rfl

/-- The field of an integer is its notation exactly if its column keeps integers. -/
theorem cellText_typedCell_int {rows : List Row} {row : Row} {name : String} {n : Int}
    {t : ColumnType} (htype : columnType (cellsOf rows name) = .ok t) (hrow : row ∈ rows)
    (hget : Dict.get? row name = some (.int n)) :
    (cellText (typedCell rows name row) = Text.ofInt n ↔ KeepsIntegers (cellsOf rows name)) ∧
      (¬KeepsIntegers (cellsOf rows name) →
        cellText (typedCell rows name row) = (Double.ofInt n).text) := by
  have hcell : cellOf row name = .value (.int n) := by simp [cellOf, hget]
  have hint : (cellsOf rows name).any Cell.isInt = true := by
    rw [List.any_eq_true]
    exact ⟨_, List.mem_map_of_mem hrow, by rw [hcell]; rfl⟩
  have hdoubles := columnType_eq_doubles_iff htype hint
  simp only [typedCell, htype, hcell, cellText_cast_int]
  by_cases hkeeps : KeepsIntegers (cellsOf rows name)
  · simp [hdoubles, hkeeps]
  · simp [hdoubles, hkeeps, text_ne_ofInt]

/-- **Integers are written as they are exactly in the columns that keep them.** There is a file
unless a column meets an integer beyond the range of the doubles. Its first record holds the names,
and each row has a record in which an integer stands as in JSON, or else as a double. -/
theorem integers_kept_iff (rows : List Row) :
    let flat := rows.map fun row => flatten row
    let names := columnNames flat
    ((∃ file, render flat = .ok file) ↔
      ∀ name ∈ names, ¬MeetsOversized [] (cellsOf flat name)) ∧
    ∀ file, render flat = .ok file →
      ∃ records, decode file.toUTF8 = some (names :: records) ∧
        List.Forall₂ (fun row record => ∀ name n, Dict.get? row name = some (.int n) →
          ∃ field, Dict.get? (names.zip record) name = some field ∧
            (field = Json.render (.int n) ↔ KeepsIntegers (cellsOf flat name)) ∧
            (¬KeepsIntegers (cellsOf flat name) → field = (Double.ofInt n).text)) flat records := by
  intro flat names
  refine ⟨exists_render_iff flat, fun file hfile => ⟨_, decode_render hfile, ?_⟩⟩
  rw [List.forall₂_map_right_iff, List.forall₂_same]
  intro row hrow name n hget
  have hname : name ∈ names := by
    refine mem_columnNames.2 ⟨row, hrow, ?_⟩
    exact Dict.mem_keys_of_mem (Dict.mem_of_get? hget)
  have htyped : ∃ t, columnType (cellsOf flat name) = .ok t := by
    have hnone := (exists_render_iff flat).1 ⟨file, hfile⟩ name hname
    rw [← columnType_fails_iff] at hnone
    cases htype : columnType (cellsOf flat name) with
    | ok t => exact ⟨t, rfl⟩
    | error f => exact absurd ⟨f, htype⟩ hnone
  obtain ⟨t, htype⟩ := htyped
  refine ⟨cellText (typedCell flat name row), ?_, cellText_typedCell_int htype hrow hget⟩
  rw [← List.map_prod_left_eq_zip, Dict.get?_map_prod, if_pos hname]

/-- A null beside an identifier makes it a double, here the one before it. -/
theorem integers_kept_iff_nullable :
    let rows : List Row := [[("id", .int 9007199254740993)], [("id", .null)]]
    let flat := rows.map fun row => flatten row
    ∃ file record rest, render flat = .ok file ∧
      decode file.toUTF8 = some (["id"] :: record :: rest) ∧
      Dict.get? (["id"].zip record) "id" = some "9007199254740992.0" := by
  intro rows flat
  have hnames : columnNames flat = ["id"] := rfl
  have htype : columnType (cellsOf flat "id") = .ok .doubles := by decide +kernel
  have hloses : ¬KeepsIntegers (cellsOf flat "id") := (columnType_eq_doubles_iff htype rfl).1 rfl
  have hnearest : (Double.ofInt 9007199254740993).text = "9007199254740992.0" := by
    decide +kernel
  obtain ⟨hfile, hfields⟩ := integers_kept_iff rows
  have hfits : ∀ name ∈ columnNames flat, ¬MeetsOversized [] (cellsOf flat name) := by
    rw [hnames, List.forall_mem_singleton, ← columnType_fails_iff, htype]
    simp
  obtain ⟨file, hok⟩ := hfile.2 hfits
  obtain ⟨records, hdecode, hall⟩ := hfields file hok
  obtain ⟨record, rest, hrecord, -, rfl⟩ := List.forall₂_cons_left_iff.1 hall
  obtain ⟨field, hget, -, hfield⟩ := hrecord "id" _ rfl
  rw [hfield hloses, hnearest] at hget
  exact ⟨file, record, rest, hok, hdecode, hget⟩

end Csv

end TableExplorer.Sheet
