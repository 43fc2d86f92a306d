import TableExplorer.Proofs.Resolve.Faithful

/-!
# Cached resolution is uncached resolution

What a cache holds depends on what was resolved before, with which failures, and on what has
expired; what a resolution makes of a row does not. Every cell keeps its value or takes its
reference value, and without a failing lookup all cells take it.

Main result: `rows_reference`.
-/

namespace TableExplorer.Resolve

variable {σ : Type}

/-! ## Cell by cell -/

/-- Two rows have the same columns, and related values in each. -/
def CellsRelated (R : String → Value → Value → Prop) (row row' : Row) : Prop :=
  Dict.keys row' = Dict.keys row ∧
    ∀ column value, Dict.get? row column = some value →
      ∃ value', Dict.get? row' column = some value' ∧ R column value value'

/-- Substituting labels in several columns relabels each cell with the labels of its column. -/
theorem forall₂_substituteAll_of_mem {steps : Dict Labels} (hnodup : (Dict.keys steps).Nodup)
    {R : String → Value → Value → Prop} {found : List Row}
    (hR : ∀ row ∈ found, ∀ column value, Dict.get? row column = some value →
      R column value (relabel ((Dict.get? steps column).getD []) value)) :
    List.Forall₂ (CellsRelated R) found (found.map (substituteAll steps)) := by
  rw [List.forall₂_map_right_iff, List.forall₂_same]
  intro row hrow
  refine ⟨keys_substituteAll steps row, fun column value hget => ⟨_, ?_, hR row hrow _ _ hget⟩⟩
  rw [get?_substituteAll hnodup, hget, Option.map_some]

theorem forall₂_substituteAll {steps : Dict Labels} (hnodup : (Dict.keys steps).Nodup)
    {R : String → Value → Value → Prop}
    (hR : ∀ column value, R column value (relabel ((Dict.get? steps column).getD []) value))
    (found : List Row) :
    List.Forall₂ (CellsRelated R) found (found.map (substituteAll steps)) :=
  forall₂_substituteAll_of_mem hnodup fun _ _ column value _ => hR column value

/-- **Cached resolution is uncached resolution.** For every non-empty list of rows and every cache
that resolutions against the source may have left behind, each cell keeps its value or takes its
reference value; where no lookup of the resolution fails, every cell takes it. -/
theorem rows_reference (ds : DataSource σ) (T : LookupTables) (lookups : Registry.Lookups)
    (hseparate : lookups.Separate) (hserves : ServesLabels ds T lookups)
    (timeToLive : Option Rat) (hlasting : ∀ ttl, timeToLive = some ttl → 0 ≤ ttl) (now : Rat)
    (s : Session σ) (hreached : Reached ds lookups timeToLive now s.cache) (table : String)
    (hcolumns : (Dict.keys (lookups.ofTable table)).Nodup) (first : Row) (rest : List Row) :
    let columns := presentColumns (lookups.ofTable table) first
    ∃ found, (rows ds lookups now (first :: rest) table s).1 = .ok found ∧
      List.Forall₂ (CellsRelated fun column value value' =>
        value' = value ∨ value' = T.reference columns column value) (first :: rest) found ∧
      (AllFound (calls ds lookups now (first :: rest) table s) →
        List.Forall₂ (CellsRelated fun column value value' =>
          value' = T.reference columns column value) (first :: rest) found) := by
  intro columns
  obtain ⟨httl, hfaithful⟩ := hreached.faithful hseparate hserves
  obtain ⟨hby, htrace⟩ := rows_trace ds lookups now (first :: rest) table s
  obtain ⟨-, -, ⟨steps, hsteps, houtcome⟩, hall⟩ := htrace.spec hseparate
    (mem_sources_of_mappedColumns lookups table _) (fun x hx => hserves.served (hby x hx)) hfaithful
  have hnodup : (Dict.keys columns).Nodup :=
    hcolumns.sublist (List.filter_sublist.map Prod.fst)
  refine ⟨_, houtcome, forall₂_substituteAll (hsteps.keys_eq ▸ hnodup) ?_ _, fun hfound => ?_⟩
  · intro column value
    rw [T.reference_eq]
    exact (hsteps.get? column).relabel value
  · have hlasts : s.cache.Lasting := by rwa [LookupCache.Lasting, httl]
    rw [Except.ok.inj (houtcome.symm.trans (hall hlasts hfound))]
    have hkeys : Dict.keys (Dict.mapValues T.labels columns) = Dict.keys columns :=
      List.map_map
    refine forall₂_substituteAll (hkeys ▸ hnodup) (fun column value => ?_) _
    exact (T.reference_eq columns column value).symm

/-- A source of fixed lookup rows in which some calls go wrong: its state counts the lookups, and
`fault n` is the error of the lookup of number `n`. -/
def LookupTables.scheduled (T : LookupTables) (fault : Nat → Option String) : DataSource Nat where
  query _ n := (.ok {}, n)
  describe _ n := (.ok [], n)
  lookup r n :=
    let source := { table := r.table, labelField := r.labelField, idField := r.idField }
    (match fault n with
      | some text => .error (.ofSource text)
      | none => .ok (T.answer source (r.ids.getD [])), n + 1)
  listTables n := (.ok [], n)

theorem servesLabels_scheduled (T : LookupTables) (fault : Nat → Option String)
    (lookups : Registry.Lookups) : ServesLabels (T.scheduled fault) T lookups := by
  intro source _ ids n
  cases hfault : fault n with
  | none => exact .inl (by simp [LookupTables.scheduled, request, hfault])
  | some text => exact .inr ⟨text, by simp [LookupTables.scheduled, hfault]⟩

/-- Two sellers under the identifier `7`, of whom the last counts, and one without a name. -/
def sellers : LookupTables := fun _ =>
  [[("id", .int 7), ("nome", .text "Ana")], [("id", .text "7"), ("nome", .text "Bia")],
    [("id", .text "8"), ("nome", .null)]]

theorem rows_reference_sellers :
    let lookups : Registry.Lookups :=
      [("leads", [("owner", Registry.seller), ("closer", Registry.seller)])]
    let ds := sellers.scheduled fun n => if n = 1 then some "down" else none
    let first : Row := [("owner", .text "7"), ("closer", .text "8")]
    let rest : List Row := [[("owner", .text "8"), ("closer", .text "7")]]
    let columns := presentColumns (lookups.ofTable "leads") first
    let earlier := rows ds lookups 3 [[("closer", .text "7")]] "leads"
      { source := 0, cache := { timeToLive := some 5 } }
    let s := earlier.2
    (lookups.Separate ∧ ServesLabels ds sellers lookups ∧
      (∀ ttl, some (5 : Rat) = some ttl → 0 ≤ ttl) ∧ Reached ds lookups (some 5) 4 s.cache ∧
      (Dict.keys (lookups.ofTable "leads")).Nodup) ∧
    ∃ found, (rows ds lookups 4 (first :: rest) "leads" s).1 = .ok found ∧
      List.Forall₂ (CellsRelated fun column value value' =>
        value' = value ∨ value' = sellers.reference columns column value) (first :: rest) found ∧
      (AllFound (calls ds lookups 4 (first :: rest) "leads" s) →
        List.Forall₂ (CellsRelated fun column value value' =>
          value' = sellers.reference columns column value) (first :: rest) found) := by
  intro lookups ds first rest columns earlier s
  have hseparate : lookups.Separate := by unfold Registry.Lookups.Separate; decide
  have hserves : ServesLabels ds sellers lookups := servesLabels_scheduled _ _ _
  have hlasting : ∀ ttl, some (5 : Rat) = some ttl → 0 ≤ ttl := by
    rintro _ ⟨⟩
    decide
  have hreached : Reached ds lookups (some 5) 4 s.cache :=
    .later (.resolved (s := { source := 0, cache := _ }) [[("closer", .text "7")]] "leads"
      (.fresh 3)) (by decide)
  have hcolumns : (Dict.keys (lookups.ofTable "leads")).Nodup := by decide
  exact ⟨⟨hseparate, hserves, hlasting, hreached, hcolumns⟩,
    rows_reference ds sellers lookups hseparate hserves (some 5) hlasting 4 s hreached "leads"
      hcolumns first rest⟩

end TableExplorer.Resolve
