import TableExplorer.Proofs.Sheet.ColumnTypes

/-!
# Texts in files

The type of a column matters to its integers only. In a file of texts every field is the text of
its value, and empty for a null or a column that the row lacks, so reading the file gives the rows
back.

Main result: `Csv.text_reads_back`.
-/

namespace TableExplorer.Sheet.Csv

/-! ## Values other than integers -/

/-- Only integers are written in another way because of the type of their column. -/
theorem cellText_cast (t : ColumnType) {c : Cell} (h : ∀ i, c ≠ .value (.int i)) :
    cellText (t.cast c) = cellText c := by
  cases t with
  | doubles =>
    rcases c with _ | (_ | b | i | d | s | vs | fs)
    · rfl
    · rfl
    · rfl
    · exact absurd rfl (h i)
    · cases d <;> rfl
    · rfl
    · rfl
    · rfl
  | _ => rfl

theorem cellText_typedCell {rows : List Row} {name : String} {row : Row}
    (h : ∀ i, cellOf row name ≠ .value (.int i)) :
    cellText (typedCell rows name row) = cellText (cellOf row name) := by
  unfold typedCell
  split
  · exact cellText_cast _ h
  · rfl

/-! ## Files of texts -/

/-- The text of a row in a column, which is empty where the row has null or lacks the column. -/
def textAt (row : Row) (name : String) : String :=
  match Dict.get? row name with
  | some (.text s) => s
  | _ => ""

/-- **A file of texts is read back.** The first record holds the columns of all rows, each once, in
the order in which they first occur, and then there is one record for each row. -/
theorem text_reads_back {rows : List Row}
    (htext : ∀ row ∈ rows, ∀ p ∈ row, p.2 = .null ∨ ∃ s, p.2 = .text s) :
    let names := (rows.flatMap Dict.keys).eraseDups
    ∃ file, render rows = .ok file ∧
      decode file.toUTF8 =
        some (names :: rows.map fun row => names.map fun name => textAt row name) := by
  have hcell : ∀ row ∈ rows, ∀ name, cellOf row name = .missing ∨
      cellOf row name = .value .null ∨ ∃ s, cellOf row name = .value (.text s) := by
    intro row hrow name
    unfold cellOf
    cases hget : Dict.get? row name with
    | none => simp
    | some v => rcases htext row hrow _ (Dict.mem_of_get? hget) with h | ⟨s, h⟩ <;> simp_all
  have hint : ∀ row ∈ rows, ∀ name i, cellOf row name ≠ .value (.int i) := by
    intro row hrow name i
    rcases hcell row hrow name with h | h | ⟨s, h⟩ <;> simp [h]
  have hfield : ∀ row ∈ rows, ∀ name, cellText (cellOf row name) = textAt row name := by
    intro row hrow name
    have htyped := hcell row hrow name
    unfold textAt cellOf at *
    cases hget : Dict.get? row name with
    | none => rfl
    | some v => rcases v with _ | _ | _ | _ | _ | _ | _ <;> simp_all [cellText, Value.display]
  have hfits : ∀ name ∈ columnNames rows, ¬MeetsOversized [] (cellsOf rows name) := by
    intro name _ hmeets
    obtain ⟨row, hrow, i, hi, -⟩ := hmeets.exists_row
    exact hint row hrow name i hi
  obtain ⟨file, hfile⟩ := (exists_render_iff rows).2 hfits
  refine ⟨file, hfile, ?_⟩
  rw [decode_render hfile, table, columnNames_eq]
  congr 2
  refine List.map_congr_left fun row hrow => List.map_congr_left fun name _ => ?_
  rw [cellText_typedCell (hint row hrow name), hfield row hrow name]

theorem text_reads_back_ragged :
    let rows : List Row :=
      [[("a,b", .text "x\"y"), ("c", .text "1\n2\r")], [("d", .null), ("a,b", .text "")], []]
    (∀ row ∈ rows, ∀ p ∈ row, p.2 = .null ∨ ∃ s, p.2 = .text s) ∧
    ∃ file, render rows = .ok file ∧
      decode file.toUTF8 =
        some [["a,b", "c", "d"], ["x\"y", "1\n2\r", ""], ["", "", ""], ["", "", ""]] := by
  intro rows
  have htext : ∀ row ∈ rows, ∀ p ∈ row, p.2 = .null ∨ ∃ s, p.2 = .text s := by
    simp only [rows, List.forall_mem_cons]
    simp
  exact ⟨htext, text_reads_back htext⟩

end TableExplorer.Sheet.Csv
