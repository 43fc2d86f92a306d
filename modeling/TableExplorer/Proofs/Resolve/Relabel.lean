import TableExplorer.Proofs.Dict
import TableExplorer.Resolve

/-!
# Relabelled rows

Resolving a column replaces cells by labels and leaves the rest of each row alone. This module says
so cell by cell: `relabel` is what happens to one cell, and a row in which several columns were
substituted one after the other holds in each of them the relabelled cell (`get?_substituteAll`).

Only the labels of texts that are in the column matter, hence `map_substitute_congr`.
-/

namespace TableExplorer.Resolve

/-- A cell with its label in its place, if there is one. -/
def relabel (labels : Labels) : Value → Value
  | .text s =>
    match Dict.get? labels s with
    | some label => if label.isEmpty then .text s else .text label
    | none => .text s
  | v => v

@[simp] theorem relabel_nil (v : Value) : relabel [] v = v := by cases v <;> rfl

/-! ## One column -/

theorem keys_substitute (column : String) (labels : Labels) (row : Row) :
    Dict.keys (substitute column labels row) = Dict.keys row := by
  unfold substitute
  split
  next s hget =>
    split
    next label hlabel =>
      have hmem : column ∈ Dict.keys row := by
        rw [← Dict.contains_iff_mem_keys, Dict.contains, hget]
        rfl
      split
      · rfl
      · rw [Dict.keys_insert, if_pos hmem]
    · rfl
  · rfl

/-- Substituting labels in a column relabels its cell and no other. -/
theorem get?_substitute (column : String) (labels : Labels) (row : Row) (other : String) :
    Dict.get? (substitute column labels row) other =
      (Dict.get? row other).map (if other = column then relabel labels else id) := by
  by_cases hother : other = column
  · subst hother
    rw [if_pos rfl]
    unfold substitute
    cases hget : Dict.get? row other with
    | none => rw [hget]; rfl
    | some v =>
      cases v with
      | text s =>
        cases hlabel : Dict.get? labels s with
        | none => simp [relabel, hget, hlabel]
        | some label => by_cases hempty : label.isEmpty <;> simp [relabel, hget, hlabel, hempty]
      | _ => simp [relabel, hget]
  · rw [if_neg hother, Option.map_id, id]
    unfold substitute
    split
    · split
      · split
        · rfl
        · exact Dict.get?_insert_of_ne row _ hother
      · rfl
    · rfl

theorem substitute_nil (column : String) (row : Row) : substitute column [] row = row := by
  unfold substitute
  split <;> rfl

theorem substitute_congr {column : String} {a b : Labels} {row : Row}
    (h : ∀ s, Dict.get? row column = some (.text s) → Dict.get? a s = Dict.get? b s) :
    substitute column a row = substitute column b row := by
  unfold substitute
  split
  next s hget => rw [h s hget]
  · rfl

/-! ## The texts of a column -/

/-- The texts seen in a column after one more row, the latest first. -/
def noteId (column : String) (seen : List String) (row : Row) : List String :=
  match Dict.get? row column with
  | some (.text s) => if s.isEmpty || seen.contains s then seen else s :: seen
  | _ => seen

theorem distinctIds_eq (rows : List Row) (column : String) :
    distinctIds rows column = (rows.foldl (noteId column) []).reverse := rfl

theorem mem_noteId {column id : String} {seen : List String} {row : Row} :
    id ∈ noteId column seen row ↔
      id ∈ seen ∨ (id ≠ "" ∧ Dict.get? row column = some (.text id)) := by
  unfold noteId
  split
  next s hget =>
    simp only [hget, Option.some.injEq, Value.text.injEq]
    split
    next hskip =>
      rw [Bool.or_eq_true, String.isEmpty_iff, List.contains_iff_mem] at hskip
      refine ⟨Or.inl, fun h => h.elim (fun hseen => hseen) ?_⟩
      rintro ⟨hid, rfl⟩
      exact hskip.resolve_left hid
    next hnew =>
      rw [Bool.or_eq_true, String.isEmpty_iff, not_or] at hnew
      rw [List.mem_cons]
      constructor
      · rintro (rfl | hseen)
        · exact .inr ⟨hnew.1, rfl⟩
        · exact .inl hseen
      · rintro (hseen | ⟨-, rfl⟩)
        · exact .inr hseen
        · exact .inl rfl
  next hother =>
    refine ⟨Or.inl, fun h => h.elim (fun hseen => hseen) fun hid => ?_⟩
    exact absurd hid.2 (hother id)

theorem mem_distinctIds {rows : List Row} {column id : String} :
    id ∈ distinctIds rows column ↔
      id ≠ "" ∧ ∃ row ∈ rows, Dict.get? row column = some (.text id) := by
  -- The fold keeps what it has seen and adds the texts of the rows to come.
  suffices hfold : ∀ seen, id ∈ rows.foldl (noteId column) seen ↔
      id ∈ seen ∨ (id ≠ "" ∧ ∃ row ∈ rows, Dict.get? row column = some (.text id)) by
    rw [distinctIds_eq, List.mem_reverse, hfold]
    simp
  induction rows with
  | nil => simp
  | cons row rows ih =>
    intro seen
    rw [List.foldl_cons, ih, mem_noteId, or_assoc, ← and_or_left]
    simp only [List.mem_cons, exists_eq_or_imp]

/-- Labels that agree on the texts of a column, and on the empty one, resolve it alike. -/
theorem map_substitute_congr {rows : List Row} {column : String} {a b : Labels}
    (hids : ∀ id ∈ distinctIds rows column, Dict.get? a id = Dict.get? b id)
    (hempty : Dict.get? a "" = Dict.get? b "") :
    rows.map (substitute column a) = rows.map (substitute column b) := by
  refine List.map_congr_left fun row hrow => substitute_congr fun s hget => ?_
  by_cases hs : s = ""
  · rw [hs, hempty]
  · exact hids s (mem_distinctIds.2 ⟨hs, row, hrow, hget⟩)

/-! ## Several columns -/

/-- Substitute labels in one column after the other. -/
def substituteAll : Dict Labels → Row → Row
  | [], row => row
  | (column, labels) :: steps, row => substituteAll steps (substitute column labels row)

theorem map_substituteAll_cons (column : String) (labels : Labels) (steps : Dict Labels)
    (rows : List Row) :
    rows.map (substituteAll ((column, labels) :: steps)) =
      (rows.map (substitute column labels)).map (substituteAll steps) := by
  rw [List.map_map]
  rfl

theorem keys_substituteAll (steps : Dict Labels) (row : Row) :
    Dict.keys (substituteAll steps row) = Dict.keys row := by
  induction steps generalizing row with
  | nil => rfl
  | cons step steps ih =>
    obtain ⟨column, labels⟩ := step
    rw [substituteAll, ih, keys_substitute]

/-- **Columns do not disturb each other.** Where no column comes twice, a cell is relabelled with
the labels of its own column. -/
theorem get?_substituteAll {steps : Dict Labels} (h : (Dict.keys steps).Nodup) (row : Row)
    (column : String) :
    Dict.get? (substituteAll steps row) column =
      (Dict.get? row column).map (relabel ((Dict.get? steps column).getD [])) := by
  induction steps generalizing row with
  | nil =>
    show Dict.get? row column = (Dict.get? row column).map (relabel [])
    cases Dict.get? row column <;> simp
  | cons step steps ih =>
    obtain ⟨name, labels⟩ := step
    rw [Dict.keys_cons, List.nodup_cons] at h
    rw [substituteAll, ih h.2, get?_substitute, Option.map_map, Dict.get?_cons]
    by_cases hname : name = column
    · subst hname
      rw [(Dict.get?_eq_none_iff steps name).2 h.1, if_pos rfl, if_pos rfl, Option.getD_none,
        Option.getD_some]
      congr 1
      funext v
      exact relabel_nil _
    · rw [if_neg (Ne.symm hname), if_neg hname]
      rfl

end TableExplorer.Resolve
