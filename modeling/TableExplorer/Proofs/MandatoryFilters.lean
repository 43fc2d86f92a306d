import TableExplorer.Proofs.Engine.Oracle
import TableExplorer.Proofs.Store.Conceal

/-!
# Mandatory filters hide rows

The mandatory filters of a table are put into a request whose base table has exactly the guarded
name. A query is direct if it reaches the guarded tables in no other way: its base table is not a
guarded one under another name, no known join of it leads to a guarded table, and neither does a
lookup of its labels. For a direct query the rows that fail the filters might as well not exist:
pages and exports are the same over the concealed warehouse, in which there are no such rows.

Where a query is not direct, hidden rows are shown (`indirect_queries_disclose`): another name of
the table, be it a view or the same name in other letters, goes without the filters, and so does a
relation that is embedded.

Main result: `Engine.results_conceal`.
-/

namespace TableExplorer

namespace Store.Warehouse

/-- A query reaches the guarded tables under their own names, as its base, and in no other way. -/
structure Direct (w : Warehouse) (mandatory : Registry.MandatoryFilters)
    (lookups : Registry.Lookups) (q : QueryState) : Prop where
  base : ∀ guarded ∈ Dict.keys mandatory, w.database.SameHome guarded q.table → guarded = q.table
  joins : ∀ j ∈ q.joins, (w.knownJoins.find? q.table j.fromColumn j.toTable).isSome = true →
    ∀ guarded ∈ Dict.keys mandatory, ¬ w.database.SameHome guarded j.toTable
  labels : ∀ p ∈ lookups.ofTable q.table,
    ∀ guarded ∈ Dict.keys mandatory, ¬ w.database.SameHome guarded p.2.table

end Store.Warehouse

open Store

/-! ## Direct queries -/

namespace Engine

variable {w : Warehouse} {mandatory : Registry.MandatoryFilters} {lookups : Registry.Lookups}
  {q : QueryState}

/-- Warehouses that answer as a given one and as its concealed form. -/
def Concealed (w : Warehouse) (mandatory : Registry.MandatoryFilters) (a b : Warehouse) : Prop :=
  w.Like a ∧ (w.conceal mandatory).Like b

/-- A direct query is answered alike, concealed or not. -/
theorem alikeFor_conceal (hw : w.Reached) (hdirect : w.Direct mandatory lookups q) :
    AlikeFor Warehouse.source Warehouse.source mandatory lookups q (Concealed w mandatory) := by
  constructor
  · intro start limit countExact a b ⟨ha, hb⟩
    have hanswer : (w.conceal mandatory).answer
        { q.exportRequest mandatory start limit with countExact } =
          w.answer { q.exportRequest mandatory start limit with countExact } := by
      refine Warehouse.answer_conceal hw hdirect.base ?_ ?_
      · intro e he
        obtain ⟨j, hj, rfl⟩ := List.mem_map.1 he
        exact hdirect.joins j hj
      · intro p hp
        exact List.mem_append_left _ hp
    obtain ⟨haAnswer, ha'⟩ := ha.query { q.exportRequest mandatory start limit with countExact }
    obtain ⟨hbAnswer, hb'⟩ := hb.query { q.exportRequest mandatory start limit with countExact }
    exact ⟨haAnswer.trans (hanswer.symm.trans hbAnswer.symm), ha', hb'⟩
  · intro p hp ids a b ⟨ha, hb⟩
    have hanswer : (w.conceal mandatory).lookupAnswer (Resolve.request p.2 ids) =
        w.lookupAnswer (Resolve.request p.2 ids) :=
      Warehouse.lookupAnswer_conceal hw (hdirect.labels p hp)
    obtain ⟨haAnswer, ha'⟩ := ha.lookup (Resolve.request p.2 ids)
    obtain ⟨hbAnswer, hb'⟩ := hb.lookup (Resolve.request p.2 ids)
    exact ⟨haAnswer.trans (hanswer.symm.trans hbAnswer.symm), ha', hb'⟩

/-- **The rows that fail the mandatory filters have no effect** on the page and the export of a
direct query: both are what they would be in a warehouse that holds none of these rows. -/
theorem results_conceal (hw : w.Reached) (hdirect : w.Direct mandatory lookups q) (now : Rat)
    (cache : LookupCache) :
    let e : Engine Warehouse := { source := Warehouse.source, mandatory, lookups }
    let hidden := w.conceal mandatory
    (∀ guarded ∈ Dict.keys mandatory, ∀ row ∈ (hidden.tableOf guarded).rows,
      ∀ p ∈ demands mandatory guarded, w.meets guarded row p = true) ∧
    (e.executeQuery now q { source := w, cache }).1 =
      (e.executeQuery now q { source := hidden, cache }).1 ∧
    (e.fetchAllForExport now q { source := w, cache }).1 =
      (e.fetchAllForExport now q { source := hidden, cache }).1 := by
  intro e hidden
  have halike := alikeFor_conceal hw hdirect
  have hstart : AlikeSessions (Concealed w mandatory) { source := w, cache }
      { source := hidden, cache } := ⟨⟨.self w, .self hidden⟩, rfl⟩
  obtain ⟨hpage, hexport⟩ := halike.results_eq now hstart
  refine ⟨fun guarded hguarded row hrow => ?_, hpage, hexport⟩
  exact Warehouse.meets_of_mem_conceal hguarded hrow

/-- Two leads of one seller, of which the second must not be seen. -/
def crm : Warehouse where
  database :=
    (Database.create {} "leads"
        [{ name := "lead_id", declared := "INTEGER" }, { name := "novo_crm", declared := "BOOLEAN" },
          { name := "vendedorResponsavel", declared := "TEXT" }]
        [[.int 1, .bool true, .text "7"], [.int 2, .bool false, .text "7"]]).create "vendedores"
      [{ name := "id", declared := "TEXT" }, { name := "nome", declared := "TEXT" }]
      [[.text "7", .text "Ana"]]

theorem results_conceal_crm :
    let q : QueryState :=
      { table := "leads"
        joins := [{ id := "", fromTable := "leads", fromColumn := "vendedorResponsavel",
                    toTable := "vendedores", toColumn := "id", selectedColumns := [] }] }
    let e : Engine Warehouse := { source := Warehouse.source }
    let hidden := crm.conceal Registry.mandatoryFilters
    (crm.tableOf "leads").rows =
      [[.int 1, .int 1, .text "7"], [.int 2, .int 0, .text "7"]] ∧
    (hidden.tableOf "leads").rows = [[.int 1, .int 1, .text "7"]] ∧
    (crm.Reached ∧ crm.Direct Registry.mandatoryFilters Registry.lookups q) ∧
    (∀ guarded ∈ Dict.keys Registry.mandatoryFilters, ∀ row ∈ (hidden.tableOf guarded).rows,
      ∀ p ∈ demands Registry.mandatoryFilters guarded, crm.meets guarded row p = true) ∧
    (e.executeQuery 0 q { source := crm, cache := {} }).1 =
      (e.executeQuery 0 q { source := hidden, cache := {} }).1 ∧
    (e.fetchAllForExport 0 q { source := crm, cache := {} }).1 =
      (e.fetchAllForExport 0 q { source := hidden, cache := {} }).1 := by
  intro q e hidden
  have hreached : crm.Reached := .start _ _
  have hdirect : crm.Direct Registry.mandatoryFilters Registry.lookups q :=
    ⟨by decide +kernel, by decide +kernel, by decide +kernel⟩
  exact ⟨by decide +kernel, by decide +kernel, ⟨hreached, hdirect⟩,
    results_conceal hreached hdirect 0 {}⟩

/-- A lead that must not be seen, a view of the leads, and a sale to the lead. -/
def sales : Warehouse where
  database :=
    ((Database.create {} "leads"
        [{ name := "lead_id", declared := "" }, { name := "novo_crm", declared := "BOOLEAN" }]
        [[.int 2, .bool false]]).create "compras"
      [{ name := "leadid", declared := "" }] [[.int 2]]).createView "contatos" "leads"

/-- **Queries that are not direct disclose**: the hidden lead is shown under another name of its
table, and beside the sale that leads to it. The concealed warehouse shows neither. -/
theorem indirect_queries_disclose :
    let e : Engine Warehouse := { source := Warehouse.source }
    let hidden := sales.conceal Registry.mandatoryFilters
    let rows (w : Warehouse) (q : QueryState) :=
      (e.executeQuery 0 q { source := w, cache := {} }).1.rows
    let join : JoinConfig :=
      { id := "", fromTable := "compras", fromColumn := "leadid", toTable := "leads",
        toColumn := "lead_id", selectedColumns := [] }
    let shown (column : String) (row : Row) := (Dict.get? row column).map Value.isTruthy
    (rows sales { table := "contatos" }).map (shown "lead_id") = [some true] ∧
    (rows hidden { table := "contatos" }).map (shown "lead_id") = [] ∧
    (rows sales { table := "compras", joins := [join] }).map (shown "leads") = [some true] ∧
    (rows hidden { table := "compras", joins := [join] }).map (shown "leads") = [some false] := by
  intro e hidden rows join shown
  exact ⟨by decide +kernel, by decide +kernel, by decide +kernel, by decide +kernel⟩

end Engine

end TableExplorer
