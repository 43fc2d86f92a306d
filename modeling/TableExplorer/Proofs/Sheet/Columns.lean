import TableExplorer.Proofs.Dict
import TableExplorer.Proofs.Except
import TableExplorer.Proofs.Lists
import TableExplorer.Proofs.Sheet.CsvReading

/-!
# The columns of a file

The columns of a file are those of all its rows in the order in which they first occur, and the
cell of a row in a column is what the row holds there, cast to the type of the column. Reading a
file gives just that, whatever the values.

Main result: `Csv.decode_render`.
-/

namespace TableExplorer.Sheet

/-! ## Names -/

theorem columnNames_eq (rows : List Row) :
    columnNames rows = (rows.flatMap Dict.keys).eraseDups := by
  rw [columnNames, Dict.keys_ofList, Dict.keys, List.map_flatMap]
  simp only [List.map_map]
  rfl

theorem mem_columnNames {rows : List Row} {name : String} :
    name ∈ columnNames rows ↔ ∃ row ∈ rows, name ∈ Dict.keys row := by
  simp [columnNames_eq]

/-! ## Cells -/

/-- The cells of a column before they are typed. -/
def cellsOf (rows : List Row) (name : String) : List Cell := rows.map fun row => cellOf row name

/-- The cell of a row in a column, cast to the type of the column. -/
def typedCell (rows : List Row) (name : String) (row : Row) : Cell :=
  match columnType (cellsOf rows name) with
  | .ok t => t.cast (cellOf row name)
  | .error _ => cellOf row name

theorem columnOf_eq_ok {rows : List Row} {name : String} {c : Column}
    (h : columnOf rows name = .ok c) : c = { name, cells := rows.map (typedCell rows name) } := by
  obtain ⟨cells, htyped, rfl⟩ := map_eq_ok.1 h
  obtain ⟨t, htype, rfl⟩ := map_eq_ok.1 htyped
  have hcell : typedCell rows name = fun row => t.cast (cellOf row name) := by
    funext row
    unfold typedCell cellsOf
    rw [htype]
  rw [hcell, List.map_map]
  rfl

theorem columnsOf_eq_ok {rows : List Row} {columns : List Column}
    (h : columnsOf rows = .ok columns) :
    columns = (columnNames rows).map fun name =>
      { name, cells := rows.map (typedCell rows name) } := by
  have hall := mapM_eq_ok.1 h
  have hsame : List.Forall₂ (fun name c =>
      ({ name, cells := rows.map (typedCell rows name) } : Column) = c)
      (columnNames rows) columns := hall.imp fun _ _ hc => (columnOf_eq_ok hc).symm
  simpa using (map_eq_map_of_forall₂ (g := id) hsame).symm

theorem recordsOf_map {α : Type} (fs : List (α → Cell)) (rows : List α) :
    recordsOf rows.length (fs.map fun f => rows.map f) = rows.map fun row => fs.map (· row) := by
  induction rows with
  | nil => rfl
  | cons row rows ih =>
    simp only [List.length_cons, recordsOf, List.map_map, List.map_cons]
    exact congrArg _ ih

namespace Csv

/-- The records of a file: the names, and for each row its cells in these columns. -/
def table (rows : List Row) : List (List String) :=
  columnNames rows :: rows.map fun row =>
    (columnNames rows).map fun name => cellText (typedCell rows name row)

theorem records_eq {rows : List Row} {columns : List Column} (h : columnsOf rows = .ok columns) :
    records rows.length columns = (table rows).map (·.map String.toList) := by
  have hcells := recordsOf_map ((columnNames rows).map (typedCell rows)) rows
  rw [List.map_map] at hcells
  rw [columnsOf_eq_ok h, records, List.map_map]
  unfold table
  simp only [List.map_map, List.map_cons, Function.comp_def] at hcells ⊢
  rw [hcells]
  simp [Function.comp_def]

/-- **Reading a file gives its columns and rows.** -/
theorem decode_render {rows : List Row} {file : String} (h : render rows = .ok file) :
    decode file.toUTF8 = some (table rows) := by
  obtain ⟨columns, hok, rfl⟩ := map_eq_ok.1 h
  rw [records_eq hok, decode_toUTF8]

end Csv

end TableExplorer.Sheet
