import TableExplorer.Proofs.Lists
import TableExplorer.Proofs.Resolve.Reference
import TableExplorer.Proofs.Resolve.Stages

/-!
# What a resolution leaves alone

Whatever the cache holds and whatever rows the source finds, a resolution puts texts that are not
empty in the place of texts, in the mapped columns that the first row has, and does nothing else.
Rows and columns stay in their places, also where rows differ in their columns.

The rows are made anew for one column after the other, and in between others use the cache and the
clock goes on. `Stage.Framed` says that what has been made of the rows so far keeps to this. It
holds at the start, and no visit breaks it: the labels that are put in may come from anywhere.

Main result: `rows_framed`.
-/

namespace TableExplorer

theorem Dict.forall₂_insert {α : Type} {R : String × α → String × α → Prop} (hrefl : ∀ p, R p p)
    {d : Dict α} {key : String} {old new : α} (hget : get? d key = some old)
    (hnew : R (key, old) (key, new)) : List.Forall₂ R d (insert d key new) := by
  induction d with
  | nil => cases hget
  | cons p d ih =>
    obtain ⟨k, v⟩ := p
    rw [get?_cons] at hget
    unfold insert
    split_ifs at hget ⊢ with hk
    · cases hget
      subst hk
      exact .cons hnew (List.forall₂_same.2 fun p _ => hrefl p)
    · exact .cons (hrefl _) (ih hget)

namespace Resolve

variable {σ : Type}

/-! ## Cells, rows and lists of rows -/

/-- What may become of a cell, where labels may be put into some columns: it stays as it is, or a
text in such a column becomes another one that is not empty. -/
def CellFramed (allowed : String → Prop) (cell cell' : String × Value) : Prop :=
  cell'.1 = cell.1 ∧ (cell'.2 = cell.2 ∨ allowed cell.1 ∧
    ∃ s label, cell.2 = .text s ∧ cell'.2 = .text label ∧ label ≠ "")

/-- What may become of a row: the same columns in the same order, cell by cell. -/
def RowFramed (allowed : String → Prop) : Row → Row → Prop := List.Forall₂ (CellFramed allowed)

/-- What may become of a list of rows: as many rows in the same order, row by row. -/
def RowsFramed (allowed : String → Prop) : List Row → List Row → Prop :=
  List.Forall₂ (RowFramed allowed)

variable {allowed : String → Prop}

theorem CellFramed.refl (cell : String × Value) : CellFramed allowed cell cell := ⟨rfl, .inl rfl⟩

theorem CellFramed.trans {a b c : String × Value} (hab : CellFramed allowed a b)
    (hbc : CellFramed allowed b c) : CellFramed allowed a c := by
  obtain ⟨hkey, hvalue⟩ := hab
  obtain ⟨hkey', hvalue' | ⟨hallowed, s, label, hs, hlabel, hne⟩⟩ := hbc
  · exact ⟨hkey'.trans hkey, by rwa [hvalue']⟩
  · refine ⟨hkey'.trans hkey, .inr ⟨hkey ▸ hallowed, ?_⟩⟩
    rcases hvalue with hsame | ⟨-, first, -, hfirst, -, -⟩
    · exact ⟨s, label, hsame ▸ hs, hlabel, hne⟩
    · exact ⟨first, label, hfirst, hlabel, hne⟩

theorem RowFramed.refl (row : Row) : RowFramed allowed row row :=
  List.forall₂_same.2 fun cell _ => .refl cell

theorem RowsFramed.refl (found : List Row) : RowsFramed allowed found found :=
  List.forall₂_same.2 fun row _ => .refl row

theorem RowFramed.trans {a b c : Row} (hab : RowFramed allowed a b) (hbc : RowFramed allowed b c) :
    RowFramed allowed a c :=
  (forall₂_comp hab hbc).imp fun _ _ ⟨_, h, h'⟩ => h.trans h'

theorem RowsFramed.trans {a b c : List Row} (hab : RowsFramed allowed a b)
    (hbc : RowsFramed allowed b c) : RowsFramed allowed a c :=
  (forall₂_comp hab hbc).imp fun _ _ ⟨_, h, h'⟩ => h.trans h'

/-! ## One column -/

theorem rowFramed_substitute {column : String} (hcolumn : allowed column) (labels : Labels)
    (row : Row) : RowFramed allowed row (substitute column labels row) := by
  unfold substitute
  split
  next s hget =>
    split
    next label _ =>
      split
      · exact .refl row
      next hlabel =>
        rw [String.isEmpty_iff] at hlabel
        exact Dict.forall₂_insert CellFramed.refl hget
          ⟨rfl, .inr ⟨hcolumn, s, label, rfl, rfl, hlabel⟩⟩
    · exact .refl row
  · exact .refl row

/-- Whatever labels a column is resolved with, it keeps to its frame. -/
theorem rowsFramed_absorb {name : String} (hname : allowed name) (now : Rat)
    (source : Registry.LookupSource) (found : List Row) (answer : Option (List Row))
    (cache : LookupCache) :
    RowsFramed allowed found (absorb now source name found answer cache).1 := by
  obtain ⟨labels, hlabels⟩ : ∃ labels, (absorb now source name found answer cache).1 =
      found.map (substitute name labels) := ⟨_, rfl⟩
  rw [hlabels, RowsFramed, List.forall₂_map_right_iff, List.forall₂_same]
  exact fun row _ => rowFramed_substitute hname labels row

/-! ## From wait to wait -/

/-- Where a resolution of some rows stands, it has kept to its frame so far and has only columns
of it to come. Once it is over, it has a result. -/
def Stage.Framed (allowed : String → Prop) (found : List Row) : Stage → Prop
  | .ready columns rows => (∀ p ∈ columns, allowed p.1) ∧ RowsFramed allowed found rows
  | .waiting name _ _ rows rest =>
    allowed name ∧ (∀ p ∈ rest, allowed p.1) ∧ RowsFramed allowed found rows
  | .ended outcome => ∃ rows, outcome = .ok rows ∧ RowsFramed allowed found rows

theorem framed_advance {found : List Row} (now : Rat) {columns : Dict Registry.LookupSource}
    (hcolumns : ∀ p ∈ columns, allowed p.1) {rows : List Row}
    (hrows : RowsFramed allowed found rows) (cache : LookupCache) :
    (advance now columns rows cache).1.Framed allowed found := by
  induction columns generalizing rows cache with
  | nil => exact ⟨rows, rfl, hrows⟩
  | cons column rest ih =>
    obtain ⟨name, source⟩ := column
    have hname : allowed name := hcolumns _ List.mem_cons_self
    have hrest : ∀ p ∈ rest, allowed p.1 := fun p hp => hcolumns p (List.mem_cons_of_mem _ hp)
    unfold advance
    dsimp only
    split
    · exact ih hrest hrows _
    · split
      · exact ih hrest (hrows.trans (rowsFramed_absorb hname _ _ _ _ _)) _
      · exact ⟨hname, hrest, hrows⟩

/-- Lookups may find any rows; where one fails, it is the source that fails. -/
def FailsAsSource (ds : DataSource σ) : Prop :=
  ∀ r state f, (ds.lookup r state).1 = .error f → f.kind = .source

/-- A visit keeps to the frame, whenever it comes and whatever the session is then. -/
theorem framed_visit {ds : DataSource σ} (hfails : FailsAsSource ds) {found : List Row} (now : Rat)
    {stage : Stage} (hstage : stage.Framed allowed found) (s : Session σ) :
    (visit ds now stage s).1.Framed allowed found := by
  cases stage with
  | ready columns rows => exact framed_advance now hstage.1 hstage.2 _
  | ended outcome => exact hstage
  | waiting name source missing rows rest =>
    obtain ⟨hname, hrest, hrows⟩ := hstage
    have hkept := fun answer cache =>
      framed_advance now hrest (hrows.trans (rowsFramed_absorb hname now source rows answer cache))
        (absorb now source name rows answer cache).2
    unfold visit resume
    dsimp only
    cases hanswer : (ds.lookup (request source missing) s.source).1 with
    | ok fetched => exact hkept (some fetched) s.cache
    | error f =>
      simp only [hfails _ _ f hanswer]
      exact hkept none s.cache

/-! ## Whole resolutions -/

/-- Visits at given moments: each has a time of its own, and a session in which anything may have
happened since the one before. -/
def visitsAmid (ds : DataSource σ) (moments : List (Rat × Session σ)) (stage : Stage) : Stage :=
  moments.foldl (fun stage moment => (visit ds moment.1 stage moment.2).1) stage

theorem framed_visitsAmid {ds : DataSource σ} (hfails : FailsAsSource ds) {found : List Row}
    (moments : List (Rat × Session σ)) {stage : Stage} (hstage : stage.Framed allowed found) :
    (visitsAmid ds moments stage).Framed allowed found := by
  induction moments generalizing stage with
  | nil => exact hstage
  | cons moment moments ih => exact ih (framed_visit hfails moment.1 hstage moment.2)

theorem left_visitsAmid (ds : DataSource σ) (moments : List (Rat × Session σ)) (stage : Stage) :
    (visitsAmid ds moments stage).left ≤ stage.left - moments.length := by
  induction moments generalizing stage with
  | nil => exact Nat.le_refl _
  | cons moment moments ih =>
    have hvisit := left_visit ds moment.1 stage moment.2
    have hrest := ih (visit ds moment.1 stage moment.2).1
    rw [List.length_cons]
    exact Nat.le_trans hrest (by omega)

/-- The moments of visits between which nothing happens. -/
theorem exists_visitsAmid (ds : DataSource σ) (times : List Rat) (stage : Stage) (s : Session σ) :
    ∃ moments, visitsAmid ds moments stage = (visits ds times stage s).1 := by
  induction times generalizing stage s with
  | nil => exact ⟨[], rfl⟩
  | cons now times ih =>
    obtain ⟨moments, hmoments⟩ := ih (visit ds now stage s).1 (visit ds now stage s).2
    exact ⟨(now, s) :: moments, hmoments⟩

/-- The columns into which labels may be put: those that are mapped for the table and that the
first row has. -/
def IsMapped (lookups : Registry.Lookups) (table : String) (found : List Row) (column : String) :
    Prop :=
  column ∈ Dict.keys (lookups.ofTable table) ∧ ∃ first ∈ found.head?, column ∈ Dict.keys first

theorem isMapped_of_mem {lookups : Registry.Lookups} {table : String} {found : List Row}
    {p : String × Registry.LookupSource} (h : p ∈ mappedColumns lookups table found) :
    IsMapped lookups table found p.1 := by
  cases found with
  | nil => cases h
  | cons first rest =>
    obtain ⟨hmapped, hpresent⟩ := List.mem_filter.1 h
    exact ⟨List.mem_map_of_mem (f := Prod.fst) hmapped, first, rfl,
      (Dict.contains_iff_mem_keys first p.1).1 hpresent⟩

/-- **A resolution touches only what it may.** Whatever the cache holds, whatever rows the source
finds, and wherever it fails as a source does: the resolution has a result, with the same rows and
columns in the same order, in which a cell is the same unless its column is mapped and in the first
row, it was a text, and it has become a text that is not empty. The same holds if others use the
cache and the source while the resolution waits, and time passes. -/
theorem rows_framed (ds : DataSource σ) (hfails : FailsAsSource ds) (lookups : Registry.Lookups)
    (table : String) (found : List Row) :
    (∀ now s, ∃ found', (rows ds lookups now found table s).1 = .ok found' ∧
      RowsFramed (IsMapped lookups table found) found found') ∧
    ∀ moments : List (Rat × Session σ),
      (mappedColumns lookups table found).length < moments.length →
      ∃ found', visitsAmid ds moments (.ready (mappedColumns lookups table found) found) =
          .ended (.ok found') ∧
        RowsFramed (IsMapped lookups table found) found found' := by
  let start := Stage.ready (mappedColumns lookups table found) found
  have hstart : start.Framed (IsMapped lookups table found) found :=
    ⟨fun _ => isMapped_of_mem, .refl found⟩
  have hamid := fun moments => framed_visitsAmid hfails moments hstart
  constructor
  · intro now s
    -- Left alone, the resolution is one that is visited until it ends.
    obtain ⟨moments, hmoments⟩ := exists_visitsAmid ds (List.replicate start.left now) start s
    have hframed := hamid moments
    rw [hmoments, visits_alone ds now start (Nat.le_refl _)] at hframed
    rwa [rows_eq]
  · intro moments hlength
    have hleft : (visitsAmid ds moments start).left = 0 := by
      have hbound := left_visitsAmid ds moments start
      have hstarts : start.left = (mappedColumns lookups table found).length + 1 := rfl
      omega
    obtain ⟨outcome, houtcome⟩ := Stage.left_eq_zero hleft
    obtain ⟨found', rfl, hrows⟩ : (Stage.ended outcome).Framed _ found := houtcome ▸ hamid moments
    exact ⟨found', houtcome, hrows⟩

/-- Rows of different shapes, one with a relation in it. The lookup of the second column fails, and
one column is not in the first row. -/
theorem rows_framed_ragged :
    let lookups : Registry.Lookups := [("leads", [("owner", Registry.seller),
      ("closer", Registry.seller), ("etapa", Registry.stage)])]
    let ds := sellers.scheduled fun n => if n = 1 then some "down" else none
    let found : List Row :=
      [[("owner", .text "7"), ("closer", .text "8"), ("seller", .record [("owner", .text "7")])],
        [("etapa", .text "7"), ("owner", .int 7)]]
    let s : Session Nat := { source := 0, cache := {} }
    let moments : List (Rat × Session Nat) := List.replicate 4 (3, s)
    (FailsAsSource ds ∧ (mappedColumns lookups "leads" found).length < moments.length) ∧
    (∃ found', (rows ds lookups 2 found "leads" s).1 = .ok found' ∧
      RowsFramed (IsMapped lookups "leads" found) found found') ∧
    ∃ found', visitsAmid ds moments (.ready (mappedColumns lookups "leads" found) found) =
        .ended (.ok found') ∧
      RowsFramed (IsMapped lookups "leads" found) found found' := by
  intro lookups ds found s moments
  have hfails : FailsAsSource ds := by
    intro r n f hf
    simp only [ds, LookupTables.scheduled] at hf
    split at hf <;> cases hf
    rfl
  have hlength : (mappedColumns lookups "leads" found).length < moments.length := by decide +kernel
  obtain ⟨hrows, hmoments⟩ := rows_framed ds hfails lookups "leads" found
  exact ⟨⟨hfails, hlength⟩, hrows 2 s, hmoments moments hlength⟩

end Resolve

end TableExplorer
