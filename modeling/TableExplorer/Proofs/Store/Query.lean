import TableExplorer.Proofs.Store.Rows

/-!
# Requests are answered as they mean

Where no block finds two related rows, the answer to a request has one row for each base row of the
range, in order, whatever blocks there are; each block shows the related row or null; and the count
is the number of base rows that meet all predicates.

Main result: `Warehouse.query_embeds`.
-/

namespace TableExplorer.Store

open Run

namespace Warehouse

variable {w : Warehouse} {r : Request} {base : Reflection} {p : Plan} {t : Live} {q : Placed}
  {conditions : List BoundCondition}

/-! ## One related row at most -/

/-- Where no block finds two related rows, a row shows the one that there is. -/
theorem Lays.gives {row : List Cell} {out : Row} (h : w.Lays r row out)
    (hsingle : ∀ e ∈ r.projection.nested, (w.partners r.table e row).length ≤ 1) :
    w.Gives r row out := by
  refine ⟨fun key => ?_, h.base, fun e he => ?_⟩
  · rw [h.keys, List.mem_append, List.mem_filter]
    by_cases hkey : key ∈ w.namesOf r.table r.projection.columns <;> simp [hkey]
  · obtain ⟨found, v, hfinds, hget, hshows⟩ := h.related e he
    refine ⟨v, hget, ?_⟩
    have hone := hsingle e he
    unfold Shows
    cases hpartners : w.partners r.table e row with
    | nil =>
      cases found with
      | none => exact hshows
      | some other =>
        have hmem : other ∈ w.partners r.table e row := hfinds
        rw [hpartners] at hmem
        cases hmem
    | cons first rest =>
      rw [hpartners, List.length_cons] at hone
      have hrest : rest = [] := List.eq_nil_of_length_eq_zero (by omega)
      cases found with
      | none =>
        have hnone : w.partners r.table e row = [] := hfinds
        rw [hpartners] at hnone
        cases hnone
      | some other =>
        have hmem : other ∈ w.partners r.table e row := hfinds
        rw [hpartners, hrest, List.mem_singleton] at hmem
        subst hmem
        exact hshows

/-! ## All rows -/

/-- Where no base row has two related rows in a relation, no block finds two. -/
theorem single_of_partners {row : List Cell}
    (hfits : p.Fits w.reflection w.knownJoins r base)
    (hstands : q.Stands w.database p conditions t) (hname : base.name = r.table)
    (hsingle : ∀ e ∈ r.projection.nested, (w.partners r.table e row).length ≤ 1) :
    Single q.embeddings row := by
  intro f hf
  have hlive := live_eq hfits hstands hname
  obtain ⟨e, he, eplan, hfit, related, hrelated, hplaced⟩ :=
    exists_of_mem_right (forall₂_comp hfits.embeddings hstands.embeddings) hf
  rw [(partners_perm hfit hplaced hname hlive hrelated row).length_eq]
  exact hsingle e he

/-- **The row of a base row**, with the one related row that it finds in each relation. -/
theorem gives_of_readRow {row : List Cell} {out : Row}
    (hfits : p.Fits w.reflection w.knownJoins r base)
    (hstands : q.Stands w.database p conditions t) (hname : base.name = r.table)
    (hsingle : ∀ e ∈ r.projection.nested, (w.partners r.table e row).length ≤ 1)
    (h : q.readRow (withPartners q.embeddings row) = .ok out) : w.Gives r row out := by
  have hone := single_of_partners hfits hstands hname hsingle
  have hpartners : List.Forall₂ (fun f found => found ∈ f.partners row) q.embeddings
      (withPartners q.embeddings row).related := by
    rw [withPartners, List.forall₂_map_right_iff, List.forall₂_same]
    intro f hf
    rw [Run.partners_eq (hone f hf)]
    exact List.mem_singleton_self _
  exact (lays_of_readRow hfits hstands hname hpartners h).gives hsingle

theorem perm_ordered (w : Warehouse) (r : Request) : (w.ordered r).Perm (w.selected r) := by
  unfold ordered
  cases r.order with
  | none => exact .rfl
  | some o => exact List.mergeSort_perm _ _

/-- **The answer to a request that succeeds**, where no base row leads to two related rows of a
block: it counts the base rows that meet all predicates, and its rows are theirs, one for each in
order, as far as the range reaches. -/
theorem query_embeds (hw : w.Reached) {response : Response}
    (hquery : (w.query r).1 = .ok response) (hok : response.error = none)
    (hunique : ∀ row ∈ w.selected r, ∀ e ∈ r.projection.nested,
      (w.partners r.table e row).length ≤ 1) :
    (r.countExact = true → response.count = some ((w.selected r).length : Int)) ∧
      List.Forall₂ (w.Gives r) (cut r.range (w.ordered r)) response.rows ∧
      (r.range = none → response.rows.length = (w.selected r).length) ∧
      ∀ range, r.range = some range → (response.rows.length : Int) =
        let rest := max 0 (((w.selected r).length : Int) - max 0 range.start)
        if range.limit < 0 then rest else min range.limit rest := by
  obtain ⟨_, hanswer, -⟩ := w.query_eq r
  rw [hanswer] at hquery
  obtain ⟨p, hplan, hrun⟩ := answer_eq_ok hquery hok
  obtain ⟨base, hfits⟩ := Plan.fits_of_fromTables hplan
  obtain ⟨conditions, q, hbound, hplace, hrows, hcount⟩ := Run.plan_eq_ok hrun
  obtain ⟨t, hstands⟩ := stands_of_place hplace
  have hname : base.name = r.table := name_of_reflectionOf hw.filed hfits.reflected
  have hselected := selected_eq hfits hbound hstands hname
  have hsingle : ∀ row ∈ q.selected, Single q.embeddings row := by
    intro row hrow
    exact single_of_partners hfits hstands hname (hunique row (hselected ▸ hrow))
  rw [Placed.joined_eq hsingle, ordered_eq hfits hbound hstands hname,
    List.forall₂_map_left_iff] at hrows
  have hselect : ∀ row ∈ cut r.range (w.ordered r), row ∈ w.selected r := by
    intro row hrow
    exact (w.perm_ordered r).mem_iff.1 ((cut_sublist r.range (w.ordered r)).subset hrow)
  have hlength : response.rows.length = (cut r.range (w.ordered r)).length := hrows.length_eq.symm
  refine ⟨fun hasked => ?_, ?_, fun hrange => ?_, fun range hrange => ?_⟩
  · rw [hcount, hasked, if_pos rfl, hselected]
  · exact ((List.forall₂_and_left _ _).2 ⟨hselect, hrows⟩).imp fun row out ⟨hrow, hread⟩ =>
      gives_of_readRow hfits hstands hname (hunique row hrow) hread
  · rw [hlength, hrange]
    exact (w.perm_ordered r).length_eq
  · rw [hlength, hrange, length_cut, (w.perm_ordered r).length_eq]

/-- Two leads. The owner of the first leads to a seller and to no form, that of the second to no
seller and to a form whose key is the document null. -/
def leads : Warehouse where
  database :=
    ((Database.create {} "leads" [{ name := "owner", declared := "TEXT" }]
        [[.text "7"], [.text "null"]]).create "sellers"
      [{ name := "id", declared := "TEXT" }, { name := "nome", declared := "TEXT" }]
      [[.text "7", .text "Ana"]]).create "forms"
      [{ name := "id", declared := "JSON" }] [[.text "null"]]
  knownJoins :=
    [("leads", [{ column := "owner", foreignTable := "sellers", foreignColumn := "id" },
      { column := "owner", foreignTable := "forms", foreignColumn := "id" }])]

theorem query_embeds_leads :
    let w := leads
    let forms : Embedding := { relation := "forms", hint := "owner" }
    let r : Request :=
      { table := "leads", countExact := true
        projection := { nested := [{ relation := "sellers", hint := "owner" }, forms] } }
    w.partners "leads" forms [.text "null"] = [[.text "null"]] ∧
    w.NullKey "leads" forms [.text "null"] ∧
    ∃ response, (w.Reached ∧ (w.query r).1 = .ok response ∧ response.error = none ∧
      ∀ row ∈ w.selected r, ∀ e ∈ r.projection.nested, (w.partners r.table e row).length ≤ 1) ∧
      (r.countExact = true → response.count = some ((w.selected r).length : Int)) ∧
      List.Forall₂ (w.Gives r) (cut r.range (w.ordered r)) response.rows ∧
      (r.range = none → response.rows.length = (w.selected r).length) ∧
      ∀ range, r.range = some range → (response.rows.length : Int) =
        let rest := max 0 (((w.selected r).length : Int) - max 0 range.start)
        if range.limit < 0 then rest else min range.limit rest := by
  intro w forms r
  have hreached : w.Reached := .start _ _
  have hunique : ∀ row ∈ w.selected r, ∀ e ∈ r.projection.nested,
      (w.partners r.table e row).length ≤ 1 := by decide +kernel
  have hrun : (w.query r).1.toOption.map Response.error = some none := by decide +kernel
  obtain ⟨response, hquery, hok⟩ :
      ∃ response, (w.query r).1 = .ok response ∧ response.error = none := by
    cases hresult : (w.query r).1 with
    | error f => rw [hresult] at hrun; cases hrun
    | ok response => rw [hresult] at hrun; exact ⟨response, rfl, Option.some.inj hrun⟩
  have hkey : w.foreignColumn? "leads" forms = some "id" := by decide +kernel
  have hjson : Dict.get? (w.columnsOf "forms") "id" = some { name := .json } := by decide +kernel
  have hcell : (w.tableOf "forms").cell "id" [.text "null"] = .text "null" := by decide +kernel
  have hdocument : ({ name := .json } : ColumnType).read
      ((w.tableOf "forms").cell "id" [.text "null"]) = .ok (.document .null) := by
    rw [hcell]
    rfl
  refine ⟨by decide +kernel, ⟨"id", _, hkey, hjson, rfl, hdocument⟩, response,
    ⟨hreached, hquery, hok, hunique⟩, query_embeds hreached hquery hok hunique⟩

end Warehouse

end TableExplorer.Store
