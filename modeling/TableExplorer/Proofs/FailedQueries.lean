import TableExplorer.Api.Endpoints
import TableExplorer.Proofs.Engine.Classification
import TableExplorer.Proofs.Engine.Oracle
import TableExplorer.Proofs.Store.Faults
import TableExplorer.Proofs.Store.Windows
import TableExplorer.Proofs.Sweep.Positions

/-!
# Failed queries are reported

A failure reaches the user as a text, and an empty text counts as none on the way. A request that
fails in a warehouse has a text, so its page has an error. An export may meet the failure in any of
its windows, and may even go on after it, but it does not complete; so it has an error too, and no
file is made of it.

There is one exception, a base table that is not known and has a blank name: its failure has no text
and is taken for an answer without rows (`blank_names_unreported`).

Main result: `Engine.failures_reported`.
-/

namespace TableExplorer

open Store

namespace Store.Warehouse

variable {w : Warehouse} {q : QueryState} {mandatory : Registry.MandatoryFilters}

theorem allPositional_calls (hjoins : w.knownJoins.Named) (hbase : w.Told q.table)
    {limits : SweepLimits} (hpage : 0 < limits.pageSize) (hfloor : 0 < limits.minPageSize)
    (hcap : limits.maxRows ≤ maxInteger) :
    Sweep.AllPositional (fun i => Clean (w.answer (q.exportRequest mandatory i 1))) limits.maxRows
      (q.exportRequest mandatory) (Sweep.calls source mandatory limits q w) := by
  intro start limit answer hmem hstart hlimit hend
  have hanswer := answer_of_mem_calls hpage hfloor hmem
  have hwindow : ∀ start limit, q.exportRequest mandatory start limit =
      (q.exportRequest mandatory 0 0).window start limit := fun _ _ => rfl
  constructor
  · rw [hanswer, hwindow]
    exact clean_window_iff hstart hlimit (by omega)
  · intro response hresponse hok hshort i hlow hhigh
    rw [hresponse, hwindow] at hanswer
    rw [hwindow]
    exact clean_behind hstart hlimit hanswer.symm hok hshort hlow (by omega)
  · intro response hresponse herror
    rw [hresponse] at hanswer
    exact tells_of_answer (r := q.exportRequest mandatory start limit) hjoins hbase hanswer.symm
      herror rfl

end Store.Warehouse

namespace Engine

open Warehouse

theorem exportOutcome_of_error {σ : Type} {e : Engine σ} {now : Rat} {q : QueryState}
    {s : Session σ} {text : String} (h : (e.fetchAllForExport now q s).1.error = some text)
    (today : String) (format : ExportFormat) :
    Api.exportOutcome (e.exportFile now today q format s).1 =
      .answer (.refusal 502 ("Export failed: " ++ text)) := by
  have hfile : (e.exportFile now today q format s).1 = .error (.query text) := by
    unfold exportFile
    simp only [h]
  rw [hfile]
  rfl

variable {e : Engine Warehouse} {w : Warehouse} {q : QueryState}

theorem executeQuery_of_error (hsource : e.source = Warehouse.source) (htable : q.table ≠ "")
    {response : Response} {text : String}
    (hquery : w.answer (q.pageRequest e.mandatory) = .ok response)
    (herror : response.error = some text) (htext : text ≠ "") (now : Rat) (cache : LookupCache) :
    (e.executeQuery now q { source := w, cache }).1 =
      { rows := [], count := 0, error := some text } := by
  have hfail : response.failure? = some text := by
    simp [Response.failure?, herror, htext]
  obtain ⟨memory, hanswer, -⟩ := w.query_eq (q.pageRequest e.mandatory)
  rw [hquery] at hanswer
  have hcalled : e.source.query (q.pageRequest e.mandatory) w =
      (.ok response, { w with memory }) := by
    rw [hsource]
    exact hanswer
  rw [e.executeQuery_outcome now htable, hcalled]
  unfold concludePage
  simp only [hfail]
  rfl

theorem mem_calls_of_mem_exportCalls {σ : Type} {e : Engine σ} {now : Rat} {s : Session σ}
    {request : Request} {answer : Except Failure Response}
    (hmem : .query request answer ∈ e.exportCalls now q s) :
    .query request answer ∈ Sweep.calls e.source e.mandatory {} q s.source := by
  have htrace := e.export_trace now q s
  generalize e.exportCalls now q s = calls at hmem htrace
  generalize (e.fetchAllForExport now q s).1 = result at htrace
  cases htrace with
  | untouched _ => cases hmem
  | failed _ hcalls _ | kept _ hcalls _ =>
    rw [← hcalls]
    exact hmem
  | resolved _ hcalls _ hresolves =>
    rw [← hcalls]
    rcases List.mem_append.1 hmem with hswept | hlookup
    · exact hswept
    · obtain ⟨_, _, heq⟩ := hresolves.2.1 _ hlookup
      cases heq

theorem error_of_not_complete {σ : Type} {e : Engine σ} (htable : q.table ≠ "") (now : Rat)
    {s : Session σ}
    (hending : (Sweep.ofState e.source.query e.mandatory {} q s.source).1.ending ≠ .complete) :
    ∃ shown, shown ≠ "" ∧ (e.fetchAllForExport now q s).1.error = some shown := by
  have htrace := (Sweep.ofState_trace e.source e.mandatory {} (by decide) (by decide) q s.source).2
  rw [e.fetchAllForExport_outcome now htable, e.sweep_outcome]
  unfold conclude
  cases hend : (Sweep.ofState e.source.query e.mandatory {} q s.source).1.ending with
  | complete => exact absurd hend hending
  | failed f => exact ⟨f.report, report_ne_empty f, rfl⟩
  | error text =>
    have herror := htrace.ending_eq.symm.trans hend
    obtain ⟨request, response, -, hfail⟩ := Sweep.endingOf_eq_error.1 herror
    exact ⟨text, text_ne_empty_of_failure hfail, rfl⟩

theorem error_of_mem_exportCalls (hsource : e.source = Warehouse.source)
    (hjoins : w.knownJoins.Named) (hbase : w.Told q.table) (htable : q.table ≠ "") {now : Rat}
    {cache : LookupCache} {request : Request} {response : Response} {text : String}
    (hmem : .query request (.ok response) ∈ e.exportCalls now q { source := w, cache })
    (herror : response.error = some text) :
    text ≠ "" ∧ ∃ shown, shown ≠ "" ∧
      (e.fetchAllForExport now q { source := w, cache }).1.error = some shown := by
  have hcall := mem_calls_of_mem_exportCalls hmem
  have htrace := (Sweep.ofState_trace e.source e.mandatory {} (by decide) (by decide) q w).2
  have hpositional : Sweep.AllPositional
      (fun i => Clean (w.answer (q.exportRequest e.mandatory i 1))) ({} : SweepLimits).maxRows
      (q.exportRequest e.mandatory) (Sweep.calls e.source e.mandatory {} q w) := by
    rw [hsource]
    exact allPositional_calls hjoins hbase (by decide) (by decide) (by decide)
  obtain ⟨start, limit, answer, heq, hstart, hlimit, hend⟩ :=
    htrace.windows (by decide) (by decide) (by decide) _ hcall
  cases heq
  have htext : text ≠ "" := by
    rintro rfl
    exact (hpositional start limit _ hcall hstart hlimit hend).told response rfl herror
  refine ⟨htext, error_of_not_complete htable now fun hcomplete => ?_⟩
  obtain ⟨found, hfound, hok⟩ :=
    htrace.all_clean (by decide) (by decide) rfl hpositional hcomplete hcall
  cases hfound
  rw [herror] at hok
  cases hok

/-- **A failed query is reported.** Where the request of a page is answered with an error, the page
shows it. Where some request of an export is, the export has an error, which may be that of a later
request, and there is no file. No error is empty. -/
theorem failures_reported (hjoins : w.knownJoins.Named) (hbase : w.Told q.table)
    (htable : q.table ≠ "") (mandatory : Registry.MandatoryFilters) (lookups : Registry.Lookups)
    (now : Rat) (cache : LookupCache) :
    let e : Engine Warehouse := { source := Warehouse.source, mandatory, lookups }
    let s : Session Warehouse := { source := w, cache }
    (∀ response text, (w.query (q.pageRequest mandatory)).1 = .ok response →
      response.error = some text →
      text ≠ "" ∧ (e.executeQuery now q s).1 = { rows := [], count := 0, error := some text }) ∧
    ∀ request response text, .query request (.ok response) ∈ e.exportCalls now q s →
      response.error = some text →
      text ≠ "" ∧ ∃ shown, shown ≠ "" ∧ (e.fetchAllForExport now q s).1.error = some shown ∧
        ∀ today format, Api.exportOutcome (e.exportFile now today q format s).1 =
          .answer (.refusal 502 ("Export failed: " ++ shown)) := by
  intro e s
  constructor
  · intro response text hquery herror
    obtain ⟨_, hanswer, -⟩ := w.query_eq (q.pageRequest mandatory)
    rw [hanswer] at hquery
    have htext : text ≠ "" :=
      tells_of_answer (r := q.pageRequest mandatory) hjoins hbase hquery herror
    have hpage := executeQuery_of_error (e := e) rfl htable hquery herror htext now cache
    exact ⟨htext, hpage⟩
  · intro request response text hmem herror
    have hexport := error_of_mem_exportCalls (e := e) rfl hjoins hbase htable hmem herror
    obtain ⟨htext, shown, hshown, hresult⟩ := hexport
    refine ⟨htext, shown, hshown, hresult, fun today format => ?_⟩
    exact exportOutcome_of_error hresult today format

/-- Leads without the column that their mandatory filter asks for. -/
def unmarked : Warehouse where
  database := Database.create {} "leads" [{ name := "lead_id", declared := "INTEGER" }] [[.int 1]]

theorem failures_reported_unmarked :
    let q : QueryState := { table := "leads" }
    let mandatory := Registry.mandatoryFilters
    let e : Engine Warehouse := { source := Warehouse.source, mandatory }
    let s : Session Warehouse := { source := unmarked, cache := {} }
    ((unmarked.query (q.pageRequest mandatory)).1.toOption.bind Response.error =
      some "column leads.novo_crm does not exist") ∧
    (unmarked.knownJoins.Named ∧ unmarked.Told q.table ∧ q.table ≠ "") ∧
    (∀ response text, (unmarked.query (q.pageRequest mandatory)).1 = .ok response →
      response.error = some text →
      text ≠ "" ∧ (e.executeQuery 0 q s).1 = { rows := [], count := 0, error := some text }) ∧
    ∀ request response text, .query request (.ok response) ∈ e.exportCalls 0 q s →
      response.error = some text →
      text ≠ "" ∧ ∃ shown, shown ≠ "" ∧ (e.fetchAllForExport 0 q s).1.error = some shown ∧
        ∀ today format, Api.exportOutcome (e.exportFile 0 today q format s).1 =
          .answer (.refusal 502 ("Export failed: " ++ shown)) := by
  intro q mandatory e s
  have hjoins : unmarked.knownJoins.Named := by decide +kernel
  have hbase : unmarked.Told q.table := fun _ => by decide +kernel
  have htable : q.table ≠ "" := by decide
  exact ⟨by decide +kernel, ⟨hjoins, hbase, htable⟩,
    failures_reported hjoins hbase htable mandatory Registry.lookups 0 {}⟩

/-! ## Blank names -/

theorem answer_of_blank (hunknown : w.reflection q.table = .error (.unknownTable q.table))
    (hblank : Text.strip q.table = "") {r : Request} (htable : r.table = q.table) :
    w.answer r = .ok { error := some "" } := by
  have hplan : Plan.fromTables w.reflection w.knownJoins r = .error (.unknownTable q.table) := by
    unfold Plan.fromTables
    rw [htable, hunknown]
    rfl
  have hreport : (QueryFault.unknownTable q.table).report = "" := hblank
  unfold answer
  rw [hplan]
  dsimp only
  rw [hreport]

/-- **The exception**: a base table that is not known and has a blank name fails without a text.
The page is an empty answer, and so is the export, of which a file is made. -/
theorem blank_names_unreported (hunknown : w.reflection q.table = .error (.unknownTable q.table))
    (hblank : Text.strip q.table = "") (htable : q.table ≠ "")
    (mandatory : Registry.MandatoryFilters) (lookups : Registry.Lookups) (now : Rat)
    (cache : LookupCache) (today : String) :
    let e : Engine Warehouse := { source := Warehouse.source, mandatory, lookups }
    let s : Session Warehouse := { source := w, cache }
    (w.query (q.pageRequest mandatory)).1 = .ok { error := some "" } ∧
    (e.executeQuery now q s).1 = {} ∧ (e.fetchAllForExport now q s).1 = {} ∧
    ∃ file, (e.exportFile now today q .csv s).1 = .ok file := by
  intro e s
  have hquery : ∀ r : Request, r.table = q.table →
      ∃ memory, w.query r = (.ok { error := some "" }, { w with memory }) := by
    intro r hr
    obtain ⟨memory, hanswer, -⟩ := w.query_eq r
    rw [answer_of_blank hunknown hblank hr] at hanswer
    exact ⟨memory, hanswer⟩
  obtain ⟨memory, hpage⟩ := hquery (q.pageRequest mandatory) rfl
  obtain ⟨memory', hwindow⟩ := hquery (q.exportRequest mandatory 0 500) rfl
  have hnone : ({ error := some "" } : Response).failure? = none := rfl
  have hresult : (e.executeQuery now q s).1 = {} := by
    rw [e.executeQuery_outcome now htable]
    show reported (e.concludePage now q cache (w.query (q.pageRequest mandatory))) = {}
    rw [hpage]
    rfl
  have hswept : Sweep.ofState e.source.query e.mandatory {} q s.source =
      ((Sweep.stop [] .complete).sent (q.exportRequest mandatory 0 500),
        { w with memory := memory' }) := by
    have hlimit : min (500 : Int) 10000 = 500 := rfl
    unfold Sweep.ofState
    rw [Sweep.run]
    simp only [Int.reduceLT, reduceDIte, e, s, Warehouse.source, Int.sub_zero, hlimit, hwindow,
      hnone, List.isEmpty_nil, reduceIte]
  have hexport : (e.fetchAllForExport now q s).1 = {} := by
    rw [e.fetchAllForExport_outcome now htable, e.sweep_outcome, hswept]
    rfl
  refine ⟨by rw [hpage], hresult, hexport, ?_⟩
  unfold exportFile
  simp only [hexport]
  exact ⟨_, rfl⟩

end Engine

end TableExplorer
