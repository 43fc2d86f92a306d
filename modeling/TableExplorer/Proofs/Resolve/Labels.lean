import TableExplorer.Proofs.Resolve.Relabel
import TableExplorer.Proofs.Value

/-!
# Labels of fixed lookup rows

Where every lookup source has fixed rows, each identifier has one label: that of its last row.
`LookupTables.reference` is what resolution should make of a cell, stated with those rows alone. A
lookup answers a part of the rows, and the labels of a part are a part of the labels
(`get?_labelsOf_filter`).

Main results: `LookupTables.reference_eq` and `LookupTables.get?_labelsOf_answer`.
-/

namespace TableExplorer.Resolve

/-- The identifier in a row of a lookup. -/
def idIn (source : Registry.LookupSource) (row : Row) : String :=
  ((Dict.get? row source.idField).getD .null).display

/-- The value that labels a row of a lookup. -/
def labelIn (source : Registry.LookupSource) (row : Row) : Value :=
  (Dict.get? row source.labelField).getD .null

/-- The last row of an identifier. -/
def lastRow? (source : Registry.LookupSource) (rows : List Row) (id : String) : Option Row :=
  rows.reverse.find? fun row => idIn source row = id

/-- The rows of each lookup source. -/
abbrev LookupTables := Registry.LookupSource → List Row

namespace LookupTables

variable (T : LookupTables)

/-- The rows of some identifiers, in their order. -/
def answer (source : Registry.LookupSource) (ids : List String) : List Row :=
  (T source).filter fun row => ids.contains (idIn source row)

def labels (source : Registry.LookupSource) : Labels :=
  labelsOf source ((T source).filter fun row => !(idIn source row).isEmpty)

/-- What becomes of a cell: a text that is not empty, in a mapped column, whose last row has a label
that says something, becomes that label; every other cell stays. -/
def reference (columns : Dict Registry.LookupSource) (column : String) (value : Value) : Value :=
  match value, Dict.get? columns column with
  | .text id, some source =>
    if id.isEmpty then value
    else
      match lastRow? source (T source) id with
      | some row =>
        if (labelIn source row).isTruthy then .text (labelIn source row).display else value
      | none => value
  | _, _ => value

end LookupTables

/-! ## The labels in some rows -/

theorem labelsOf_eq (source : Registry.LookupSource) (rows : List Row) :
    labelsOf source rows =
      Dict.ofList (rows.map fun row => (idIn source row, (labelIn source row).label)) := rfl

theorem nodup_keys_labelsOf (source : Registry.LookupSource) (rows : List Row) :
    (Dict.keys (labelsOf source rows)).Nodup := Dict.nodup_keys_ofList _

theorem get?_labelsOf (source : Registry.LookupSource) (rows : List Row) (id : String) :
    Dict.get? (labelsOf source rows) id =
      (lastRow? source rows id).map fun row => (labelIn source row).label := by
  rw [labelsOf_eq, Dict.get?_ofList, Dict.get?_eq_find?, ← List.map_reverse, List.find?_map,
    Option.map_map]
  rfl

/-- The labels of the rows of some identifiers are the labels of those identifiers. -/
theorem get?_labelsOf_filter (source : Registry.LookupSource) (rows : List Row)
    (p : String → Bool) (id : String) :
    Dict.get? (labelsOf source (rows.filter fun row => p (idIn source row))) id =
      if p id then Dict.get? (labelsOf source rows) id else none := by
  rw [get?_labelsOf, get?_labelsOf, lastRow?, ← List.filter_reverse, List.find?_filter]
  have hboth : (fun row => decide (p (idIn source row) = true ∧
      decide (idIn source row = id) = true)) =
        fun row => p id && decide (idIn source row = id) := by
    funext row
    by_cases hid : idIn source row = id <;> simp [hid]
  rw [hboth]
  cases p id with
  | true => simp [lastRow?]
  | false => simp

namespace LookupTables

variable (T : LookupTables)

theorem get?_labelsOf_answer (source : Registry.LookupSource) (ids : List String) (id : String) :
    Dict.get? (labelsOf source (T.answer source ids)) id =
      if id ∈ ids then Dict.get? (labelsOf source (T source)) id else none := by
  rw [answer, get?_labelsOf_filter source (T source) ids.contains id]
  simp only [List.contains_iff_mem]

theorem get?_labels (source : Registry.LookupSource) (id : String) :
    Dict.get? (T.labels source) id =
      if id = "" then none else Dict.get? (labelsOf source (T source)) id := by
  rw [labels, get?_labelsOf_filter source (T source) (fun id => !id.isEmpty) id]
  by_cases hid : id = "" <;> simp [hid]

/-- **The reference value is the relabelled cell.** -/
theorem reference_eq (columns : Dict Registry.LookupSource) (column : String) (value : Value) :
    T.reference columns column value =
      relabel ((Dict.get? (Dict.mapValues T.labels columns) column).getD []) value := by
  rw [Dict.get?_mapValues]
  cases hcolumn : Dict.get? columns column with
  | none =>
    show _ = relabel [] value
    rw [relabel_nil]
    cases value <;> simp [reference, hcolumn]
  | some source =>
    show _ = relabel (T.labels source) value
    cases value with
    | text id =>
      by_cases hid : id = ""
      · simp [reference, hcolumn, relabel, hid, get?_labels]
      · cases hrow : lastRow? source (T source) id with
        | none => simp [reference, hcolumn, relabel, hid, get?_labels, get?_labelsOf, hrow]
        | some row =>
          simp only [reference, hcolumn, relabel, hid, get?_labels, get?_labelsOf, hrow,
            Option.map_some, if_false, Value.isEmpty_label, String.isEmpty_iff]
          cases htruthy : (labelIn source row).isTruthy <;> simp [Value.label, htruthy]
    | _ => simp [reference, relabel]

end LookupTables

end TableExplorer.Resolve
