import Mathlib.Data.List.Chain
import TableExplorer.DataSource.Scripted
import TableExplorer.Proofs.Engine.Outcome
import TableExplorer.Proofs.Sweep.Trace

/-!
# The protocol of a sweep

Nothing is assumed of the source here: it may answer with too many rows, with any error, or not at
all. Even so a sweep asks in an orderly way. Every request is for a window of the same query that
lies within the cap (`AsksWindow`), and one request comes after another only behind a page that
fills its window, or after a timeout (`Follows`).

What the sweep gathers, announces and ends with can be read off the answers: the rows are those of
the pages, in order, the announcements are their running totals, and the last answer is the ending.

Main result: `Engine.sweep_orderly`.
-/

namespace TableExplorer

variable {σ : Type}

/-- The rows of a call that was answered with rows. -/
def Exchange.page? : Exchange → Option (List Row)
  | .query _ (.ok response) =>
    if response.failure?.isNone && !response.rows.isEmpty then some response.rows else none
  | _ => none

theorem Exchange.page?_of_error (request : Request) (f : Failure) :
    page? (.query request (.error f)) = none := rfl

theorem Exchange.page?_of_failure {request : Request} {response : Response} {text : String}
    (h : response.failure? = some text) : page? (.query request (.ok response)) = none := by
  simp [page?, h]

theorem Exchange.page?_of_rows {request : Request} {response : Response}
    (hok : response.failure? = none) (hsome : response.rows ≠ []) :
    page? (.query request (.ok response)) = some response.rows := by
  simp [page?, hok, hsome]

namespace Sweep

/-! ## What is asked -/

/-- A request for a window of a query that is not empty and lies within the cap. The number of all
rows is not asked for. -/
structure AsksWindow (mandatory : Registry.MandatoryFilters) (q : QueryState) (cap : Int)
    (request : Request) : Prop where
  table_eq : request.table = q.table
  projection_eq : request.projection = q.projection
  predicates_eq : request.predicates = q.predicates mandatory
  order_eq : request.order = q.order
  uncounted : request.countExact = false
  window : ∃ range, request.range = some range ∧ 0 ≤ range.start ∧ 1 ≤ range.limit ∧
    range.start + range.limit ≤ cap

theorem asksWindow_exportRequest (mandatory : Registry.MandatoryFilters) (q : QueryState)
    {start limit cap : Int} (hstart : 0 ≤ start) (hlimit : 0 < limit) (hcap : start + limit ≤ cap) :
    AsksWindow mandatory q cap (q.exportRequest mandatory start limit) := by
  refine ⟨rfl, rfl, rfl, rfl, rfl, .window start limit, rfl, hstart, ?_, ?_⟩
  · rw [RowRange.limit_window]
    exact hlimit
  · rw [RowRange.limit_window]
    exact hcap

/-- One call of a sweep comes after another. -/
inductive Follows : Exchange → Exchange → Prop
  /-- Behind a page that fills its window come the rows behind the window. -/
  | page {request next : Request} {response : Response} {answer : Except Failure Response}
      {range range' : RowRange} : request.range = some range → next.range = some range' →
      response.failure? = none → range.limit ≤ response.rows.length →
      range'.start = range.start + range.limit →
      Follows (.query request (.ok response)) (.query next answer)
  /-- After a timeout no more rows are asked for, from the same start. -/
  | timeout {request next : Request} {response : Response} {answer : Except Failure Response}
      {range range' : RowRange} {text : String} : request.range = some range →
      next.range = some range' → response.failure? = some text → isTimeout text = true →
      range'.start = range.start → range'.limit ≤ range.limit →
      Follows (.query request (.ok response)) (.query next answer)

/-! ## What is answered -/

/-- The pages that a sweep was given, in order. -/
def pages (calls : List Exchange) : List (List Row) := calls.filterMap Exchange.page?

/-- The numbers of rows after each page, from some number on. -/
def runningTotals : (before : Nat) → List (List Row) → List Nat
  | _, [] => []
  | before, page :: rest => (before + page.length) :: runningTotals (before + page.length) rest

/-- How the last answer ends a sweep. Without any call there was nothing to ask. -/
def endingOf (calls : List Exchange) : Ending :=
  match calls.getLast? with
  | some (.query _ (.error f)) => .failed f
  | some (.query _ (.ok response)) =>
    match response.failure? with
    | some text => .error text
    | none => .complete
  | _ => .complete

/-- A sweep ends with an error exactly if its last answer is one. -/
theorem endingOf_eq_error {calls : List Exchange} {text : String} :
    endingOf calls = .error text ↔ ∃ request response,
      calls.getLast? = some (.query request (.ok response)) ∧ response.failure? = some text := by
  unfold endingOf
  constructor
  · intro h
    split at h
    · cases h
    next request response hlast =>
      split at h
      next hfail =>
        cases h
        exact ⟨request, response, hlast, hfail⟩
      · cases h
    · cases h
  · rintro ⟨request, response, hlast, hfail⟩
    simp only [hlast, hfail]

theorem ne_nil_of_mem_pages {calls : List Exchange} {page : List Row} (h : page ∈ pages calls) :
    page ≠ [] := by
  obtain ⟨x, -, hx⟩ := List.mem_filterMap.1 h
  unfold Exchange.page? at hx
  split at hx
  · split at hx
    next hpage =>
      cases hx
      simp only [Bool.and_eq_true, Bool.not_eq_true', List.isEmpty_eq_false_iff] at hpage
      exact hpage.2
    · cases hx
  · cases hx

theorem lt_of_mem_runningTotals {before n : Nat} {found : List (List Row)}
    (hfound : ∀ page ∈ found, page ≠ []) (h : n ∈ runningTotals before found) : before < n := by
  induction found generalizing before with
  | nil => cases h
  | cons page rest ih =>
    have hpage : 0 < page.length := List.length_pos_iff.2 (hfound page List.mem_cons_self)
    rcases List.mem_cons.1 h with rfl | hrest
    · omega
    · have hlater := ih (fun p hp => hfound p (List.mem_cons_of_mem _ hp)) hrest
      omega

theorem pairwise_runningTotals {found : List (List Row)} (hfound : ∀ page ∈ found, page ≠ [])
    (before : Nat) : (runningTotals before found).Pairwise (· < ·) := by
  induction found generalizing before with
  | nil => exact .nil
  | cons page rest ih =>
    have hrest : ∀ p ∈ rest, p ≠ [] := fun p hp => hfound p (List.mem_cons_of_mem _ hp)
    exact .cons (fun n hn => lt_of_mem_runningTotals hrest hn) (ih hrest _)

theorem getLast?_runningTotals (found : List (List Row)) (before : Nat) :
    (runningTotals before found).getLast?.getD before = before + found.flatten.length := by
  induction found generalizing before with
  | nil => simp [runningTotals]
  | cons page rest ih =>
    rw [runningTotals, List.getLast?_cons, Option.getD_some, ih, List.flatten_cons,
      List.length_append]
    omega

/-! ## Along a trace -/

variable {limits : SweepLimits} {compile : Int → Int → Request} {c : Cursor}
  {calls : List Exchange} {report : Report}

theorem Trace.head (h : Trace limits compile c calls report) :
    ∀ x ∈ calls.head?, ∃ answer, x = .query (compile c.offset (c.limit limits)) answer := by
  cases h with
  | capped _ => simp
  | _ => simp

theorem Trace.ne_nil (h : Trace limits compile c calls report)
    (hbelow : c.offset < limits.maxRows) : calls ≠ [] := by
  cases h with
  | capped hreached => exact absurd hbelow (Int.not_lt.2 hreached)
  | _ => exact List.cons_ne_nil _ _

theorem Cursor.limit_shrunk_le (hpage : 0 < c.pageSize) (habove : limits.minPageSize < c.pageSize) :
    (c.shrunk limits).limit limits ≤ c.limit limits := by
  have hsmaller := backOff_lt hpage habove
  unfold limit shrunk
  dsimp only
  omega

/-- **The calls of a trace follow each other.** -/
theorem Trace.isChain (h : Trace limits compile c calls report) (hfloor : 0 < limits.minPageSize)
    (hpage : 0 < c.pageSize)
    (hcompile : ∀ start limit, (compile start limit).range = some (.window start limit)) :
    calls.IsChain Follows := by
  induction h with
  | capped _ => exact .nil
  | failed _ | stopped _ _ _ | empty _ _ _ | short _ _ _ _ => exact .singleton _
  | @retried c response text calls report hbelow hfail htime habove hrest ih =>
    refine List.isChain_cons.2 ⟨fun y hy => ?_, ih (backOff_pos hfloor _)⟩
    obtain ⟨answer, rfl⟩ := hrest.head y hy
    refine .timeout (hcompile _ _) (hcompile _ _) hfail htime rfl ?_
    rw [RowRange.limit_window, RowRange.limit_window]
    exact Cursor.limit_shrunk_le hpage habove
  | @full c response calls report hbelow hok hsome hfull hrest ih =>
    refine List.isChain_cons.2 ⟨fun y hy => ?_, ih hpage⟩
    obtain ⟨answer, rfl⟩ := hrest.head y hy
    refine .page (hcompile _ _) (hcompile _ _) hok ?_ ?_
    · rw [RowRange.limit_window]
      exact hfull
    · rw [RowRange.limit_window]
      rfl

/-- **The rows of a sweep** are those of its pages. -/
theorem Trace.rows_eq (h : Trace limits compile c calls report) :
    report.rows = c.rows ++ (pages calls).flatten := by
  induction h with
  | capped _ => simp [pages, stop]
  | failed _ => simp [pages, Exchange.page?_of_error, stop, Report.sent]
  | stopped _ hfail _ => simp [pages, Exchange.page?_of_failure hfail, stop, Report.sent]
  | retried _ hfail _ _ _ ih =>
    rw [pages, List.filterMap_cons_none (Exchange.page?_of_failure hfail)]
    exact ih
  | empty _ _ hnone => simp [pages, Exchange.page?, hnone, stop, Report.sent]
  | short _ hok hsome _ =>
    simp [pages, Exchange.page?_of_rows hok hsome, stop, Report.sent, Report.announced]
  | full _ hok hsome _ _ ih =>
    rw [pages, List.filterMap_cons_some (Exchange.page?_of_rows hok hsome), List.flatten_cons,
      ← List.append_assoc]
    exact ih

/-- **The announcements of a sweep** are the running totals of its pages. -/
theorem Trace.progress_eq (h : Trace limits compile c calls report) :
    report.progress = runningTotals c.rows.length (pages calls) := by
  induction h with
  | capped _ | failed _ => rfl
  | stopped _ hfail _ =>
    simp [pages, Exchange.page?_of_failure hfail, stop, Report.sent, runningTotals]
  | retried _ hfail _ _ _ ih =>
    rw [pages, List.filterMap_cons_none (Exchange.page?_of_failure hfail)]
    exact ih
  | empty _ _ hnone => simp [pages, Exchange.page?, hnone, stop, Report.sent, runningTotals]
  | short _ hok hsome _ =>
    simp [pages, Exchange.page?_of_rows hok hsome, stop, Report.sent, Report.announced,
      runningTotals]
  | @full c response calls report _ hok hsome _ _ ih =>
    rw [pages, List.filterMap_cons_some (Exchange.page?_of_rows hok hsome), runningTotals,
      ← List.length_append]
    exact congrArg _ ih

theorem endingOf_cons {x : Exchange} (hcalls : calls ≠ []) :
    endingOf (x :: calls) = endingOf calls := by
  rw [endingOf, endingOf, List.getLast?_cons_of_ne_nil hcalls]

/-- **The ending of a sweep** is that of its last answer. -/
theorem Trace.ending_eq (h : Trace limits compile c calls report) :
    report.ending = endingOf calls := by
  induction h with
  | capped _ | failed _ => rfl
  | stopped _ hfail _ => simp [endingOf, hfail, stop, Report.sent]
  | retried hbelow _ _ _ hrest ih =>
    rw [endingOf_cons (hrest.ne_nil hbelow)]
    exact ih
  | empty _ hok _ => simp [endingOf, hok, stop, Report.sent]
  | short _ hok _ _ => simp [endingOf, hok, stop, Report.sent, Report.announced]
  | @full c response calls report hbelow hok _ _ hrest ih =>
    by_cases hnil : calls = []
    · -- The page reached the cap, so the sweep is complete without another call.
      subst hnil
      cases hrest
      simp [endingOf, hok, stop, Report.sent, Report.announced]
    · rw [endingOf_cons hnil]
      exact ih

/-- **The cap on the rows.** Where no page is longer than its window, the rows gathered are no more
than the windows asked for. -/
theorem Trace.length_rows_le (h : Trace limits compile c calls report)
    (hcompile : ∀ start limit, (compile start limit).range = some (.window start limit))
    (hfit : ∀ request response, .query request (.ok response) ∈ calls →
      ∀ range ∈ request.range, (response.rows.length : Int) ≤ range.limit)
    (hrows : (c.rows.length : Int) ≤ c.offset) (hcap : c.offset ≤ limits.maxRows) :
    (report.rows.length : Int) ≤ limits.maxRows := by
  have hpage : ∀ {c : Cursor} {response : Response} {calls : List Exchange},
      (∀ request response, .query request (.ok response) ∈ calls →
        ∀ range ∈ request.range, (response.rows.length : Int) ≤ range.limit) →
      .query (compile c.offset (c.limit limits)) (.ok response) ∈ calls →
      (response.rows.length : Int) ≤ c.limit limits := by
    intro c response calls hfit hmem
    have hlength := hfit _ _ hmem _ (hcompile _ _)
    rwa [RowRange.limit_window] at hlength
  induction h with
  | capped _ | failed _ | stopped _ _ _ | empty _ _ _ => exact Int.le_trans hrows hcap
  | retried _ _ _ _ _ ih =>
    exact ih (fun r a hx => hfit r a (List.mem_cons_of_mem _ hx)) hrows hcap
  | @short c response _ _ _ hshort =>
    have hwithin := c.offset_add_limit_le limits
    show ((c.rows ++ response.rows).length : Int) ≤ limits.maxRows
    rw [List.length_append, Int.natCast_add]
    omega
  | @full c response calls report _ _ _ _ _ ih =>
    have hlength := hpage hfit List.mem_cons_self
    refine ih (fun r a hx => hfit r a (List.mem_cons_of_mem _ hx)) ?_
      (c.offset_add_limit_le limits)
    show ((c.rows ++ response.rows).length : Int) ≤ c.offset + c.limit limits
    rw [List.length_append, Int.natCast_add]
    omega

end Sweep

/-! ## The export -/

namespace Engine

/-- What an export leaves behind: the state after its requests, and, if the sweep is complete, after
the resolution of its rows. -/
theorem sweep_session (e : Engine σ) (limits : SweepLimits) (now : Rat) (q : QueryState)
    (s : Session σ) :
    let swept := Sweep.ofState e.source.query e.mandatory limits q s.source
    (e.sweep limits now q s).1.progress = swept.1.progress ∧
    (e.sweep limits now q s).2 =
      match swept.1.ending with
      | .complete => (Resolve.rows e.source e.lookups now swept.1.rows q.table
          { source := swept.2, cache := s.cache }).2
      | _ => { source := swept.2, cache := s.cache } := by
  rcases hswept : Sweep.ofState e.source.query e.mandatory limits q s.source with ⟨report, state⟩
  simp only [sweep, hswept]
  cases report.ending with
  | failed f => exact ⟨rfl, rfl⟩
  | error text => exact ⟨rfl, rfl⟩
  | complete =>
    obtain ⟨found, s'⟩ :=
      Resolve.rows e.source e.lookups now report.rows q.table { source := state, cache := s.cache }
    cases found <;> exact ⟨rfl, rfl⟩

/-- What an export does, told by the calls of its sweep and their answers. -/
structure Orderly (e : Engine σ) (limits : SweepLimits) (now : Rat) (q : QueryState)
    (s : Session σ) (calls : List Exchange) : Prop where
  /-- Every call asks for a window of the query within the cap. -/
  asks : ∀ x ∈ calls, ∃ request answer, x = .query request answer ∧
    Sweep.AsksWindow e.mandatory q limits.maxRows request
  /-- The first window starts at the first row. -/
  first : ∀ request answer, calls.head? = some (.query request answer) →
    ∃ range, request.range = some range ∧ range.start = 0
  /-- A call comes after another only behind a page that fills its window, or after a timeout. -/
  follows : calls.IsChain Sweep.Follows
  /-- Every page is announced once, with the number of rows so far. -/
  announces : (e.sweep limits now q s).1.progress = Sweep.runningTotals 0 (Sweep.pages calls)
  /-- The announcements grow. -/
  increases : (e.sweep limits now q s).1.progress.Pairwise (· < ·)
  /-- The last announcement is the number of rows gathered; without one there are none. -/
  announced : (e.sweep limits now q s).1.progress.getLast?.getD 0 =
    (Sweep.pages calls).flatten.length
  /-- If the last answer is a page, all rows are resolved together, once. Otherwise nothing is
  resolved: the rows are kept as they are, or the export fails as the call did. -/
  concludes :
    let state := (Sweep.ofState e.source.query e.mandatory limits q s.source).2
    let rows := (Sweep.pages calls).flatten
    let resolved := Resolve.rows e.source e.lookups now rows q.table { source := state,
                                                                       cache := s.cache }
    let exported := e.sweep limits now q s
    match Sweep.endingOf calls with
    | .complete =>
      exported.1.outcome = resolved.1.map (fun found => { rows := found, count := found.length }) ∧
      exported.2 = resolved.2
    | .error text =>
      exported.1.outcome = .ok { rows, count := rows.length, error := some text } ∧
      exported.2 = { source := state, cache := s.cache }
    | .failed f =>
      exported.1.outcome = .error f ∧ exported.2 = { source := state, cache := s.cache }
  /-- If no answer is longer than its window, the rows gathered are no more than the cap. -/
  bounded : (∀ request response, .query request (.ok response) ∈ calls →
      ∀ range ∈ request.range, (response.rows.length : Int) ≤ range.limit) →
    ((Sweep.pages calls).flatten.length : Int) ≤ limits.maxRows

/-- **A sweep is orderly**, whatever the source answers. -/
theorem sweep_orderly (e : Engine σ) (limits : SweepLimits) (hcap : 0 ≤ limits.maxRows)
    (hpage : 1 ≤ limits.pageSize) (hfloor : 1 ≤ limits.minPageSize) (q : QueryState) (now : Rat)
    (s : Session σ) :
    e.Orderly limits now q s (Sweep.calls e.source e.mandatory limits q s.source) := by
  have htrace := (Sweep.ofState_trace e.source e.mandatory limits hpage hfloor q s.source).2
  have hcompile : ∀ start limit,
      (q.exportRequest e.mandatory start limit).range = some (.window start limit) :=
    fun _ _ => rfl
  have hrows := htrace.rows_eq
  have hprogress := htrace.progress_eq
  have hending := htrace.ending_eq
  rw [List.nil_append] at hrows
  obtain ⟨hannounced, hsession⟩ := e.sweep_session limits now q s
  have houtcome := e.sweep_outcome limits now q s
  rw [hprogress] at hannounced
  have hnonempty : ∀ page ∈ Sweep.pages (Sweep.calls e.source e.mandatory limits q s.source),
      page ≠ [] := fun page hmem => Sweep.ne_nil_of_mem_pages hmem
  exact {
    asks := by
      intro x hx
      obtain ⟨start, limit, answer, rfl, hstart, hlimit, hwithin⟩ :=
        htrace.windows hfloor hpage Int.le_rfl x hx
      exact ⟨_, answer, rfl, Sweep.asksWindow_exportRequest _ _ hstart hlimit hwithin⟩
    first := by
      intro request answer hhead
      obtain ⟨answer', heq⟩ := htrace.head _ hhead
      cases heq
      exact ⟨_, rfl, rfl⟩
    follows := htrace.isChain hfloor hpage hcompile
    announces := hannounced
    increases := by
      rw [hannounced]
      exact Sweep.pairwise_runningTotals hnonempty _
    announced := by
      rw [hannounced]
      exact (Sweep.getLast?_runningTotals _ 0).trans (Nat.zero_add _)
    concludes := by
      intro state rows resolved exported
      unfold Engine.conclude at houtcome
      rw [hending, hrows] at houtcome hsession
      cases hlast : Sweep.endingOf (Sweep.calls e.source e.mandatory limits q s.source) with
      | complete | error text | failed f =>
        rw [hlast] at houtcome hsession
        exact ⟨houtcome, hsession⟩
    bounded := by
      intro hfit
      rw [← hrows]
      exact htrace.length_rows_le hcompile hfit Int.le_rfl hcap }

/-- A source that answers with a page, a timeout, a page that is longer than its window, and an
error. -/
def unruly : Scripted.Script where
  queries := .ok [
    .ok { rows := [[("id", .text "0")], [("id", .text "1")]] },
    .ok { error := some "canceling statement due to statement timeout" },
    .ok { rows := [[("id", .text "2")], [("id", .text "3")], [("id", .text "4")]] },
    .ok { error := some "connection lost" }]

theorem sweep_orderly_unruly :
    let e : Engine Scripted.Script := { source := Scripted.source }
    let limits : SweepLimits := { maxRows := 10, pageSize := 2, minPageSize := 1 }
    let q : QueryState := { table := "leads" }
    let s : Session Scripted.Script := { source := unruly, cache := {} }
    (0 ≤ limits.maxRows ∧ 1 ≤ limits.pageSize ∧ 1 ≤ limits.minPageSize) ∧
      e.Orderly limits 0 q s (Sweep.calls e.source e.mandatory limits q s.source) := by
  intro e limits q s
  exact ⟨by decide,
    e.sweep_orderly limits (by decide) (by decide) (by decide) q 0 s⟩

end Engine

end TableExplorer
