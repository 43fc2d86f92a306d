import TableExplorer.Proofs.Engine.Outcome
import TableExplorer.Proofs.Sweep.Trace

/-!
# A sweep loses no row

Let a source answer every window of a query with that window of one fixed list, or else with an
error of its choice. Whatever errors it chooses, and in whatever order timeouts come, a sweep that
completes hands on exactly the rows of the list up to the cap, and a sweep that ends with an error
returns exactly the rows before the window that failed.

The invariant is that the rows gathered are those before the offset. A timeout keeps both; a full
page moves both by one window; every other answer ends the sweep.

Main result: `Engine.sweep_exact`.
-/

namespace TableExplorer

variable {σ : Type}

namespace Sweep

/-- The rows of a list in a window. -/
def slice (rows : List Row) (start limit : Int) : List Row :=
  (rows.drop start.toNat).take limit.toNat

/-- The source answers each window with that window of the rows, or with an error. -/
def ServesWindows (ds : DataSource σ) (compile : Int → Int → Request) (rows : List Row) : Prop :=
  ∀ start limit s, 0 ≤ start → 0 < limit →
    ∃ response, (ds.query (compile start limit) s).1 = .ok response ∧
      (response.failure? = none → response.rows = slice rows start limit)

/-- The same of a single call. -/
def Served (compile : Int → Int → Request) (rows : List Row) (x : Exchange) : Prop :=
  ∀ start limit answer, x = .query (compile start limit) answer → 0 ≤ start → 0 < limit →
    ∃ response, answer = .ok response ∧
      (response.failure? = none → response.rows = slice rows start limit)

theorem ServesWindows.served {ds : DataSource σ} {compile : Int → Int → Request}
    {rows : List Row} (h : ServesWindows ds compile rows) {x : Exchange} (hx : x.AnsweredBy ds) :
    Served compile rows x := by
  rintro start limit answer rfl hstart hlimit
  obtain ⟨s, rfl⟩ := hx
  exact h start limit s hstart hlimit

/-- A source of fixed rows in which some calls go wrong: its state counts the calls, and `fault n`
is the error of the call of number `n`. -/
def scheduled (rows : List Row) (fault : Nat → Option String) : DataSource Nat where
  query r n :=
    let page := (r.range.map fun range => slice rows range.start range.limit).getD rows
    (.ok { rows := page, error := fault n }, n + 1)
  describe _ n := (.ok [], n)
  lookup _ n := (.ok [], n)
  listTables n := (.ok [], n)

theorem servesWindows_scheduled (rows : List Row) (fault : Nat → Option String)
    (mandatory : Registry.MandatoryFilters) (q : QueryState) :
    ServesWindows (scheduled rows fault) (q.exportRequest mandatory) rows := by
  intro start limit n _ _
  refine ⟨_, rfl, fun _ => ?_⟩
  show slice rows start (RowRange.window start limit).limit = slice rows start limit
  rw [RowRange.limit_window]

/-- The page size after some calls: every timeout makes it smaller. -/
def pageSizeAfter (limits : SweepLimits) : (pageSize : Int) → List Exchange → Int
  | pageSize, .query _ (.ok response) :: calls =>
    pageSizeAfter limits
      (if response.failure?.any isTimeout then backOff limits pageSize else pageSize) calls
  | pageSize, _ :: calls => pageSizeAfter limits pageSize calls
  | pageSize, [] => pageSize

theorem Served.page {compile : Int → Int → Request} {rows : List Row} {start limit : Int}
    {response : Response} (h : Served compile rows (.query (compile start limit) (.ok response)))
    (hstart : 0 ≤ start) (hlimit : 0 < limit) (hok : response.failure? = none) :
    response.rows = slice rows start limit := by
  obtain ⟨_, heq, hrows⟩ := h start limit _ rfl hstart hlimit
  cases heq
  exact hrows hok

/-! ## Windows of a list -/

theorem take_append_slice (rows : List Row) {offset limit : Int} (hoffset : 0 ≤ offset)
    (hlimit : 0 < limit) :
    rows.take offset.toNat ++ slice rows offset limit = rows.take (offset + limit).toNat := by
  rw [slice, ← List.take_add, Int.toNat_add hoffset (Int.le_of_lt hlimit)]

/-- A window that is not full ends with the list, so no cap behind it cuts anything off. -/
theorem take_of_short {rows : List Row} {offset limit cap : Int} (hoffset : 0 ≤ offset)
    (hcap : offset + limit ≤ cap) (hshort : ((slice rows offset limit).length : Int) < limit) :
    rows.take (offset + limit).toNat = rows.take cap.toNat := by
  rw [slice, List.length_take, List.length_drop] at hshort
  rw [List.take_of_length_le (by omega), List.take_of_length_le (by omega)]

/-! ## Ends of sweeps -/

/-- How a sweep over the windows of a list ends, from a page size on. -/
def EndsExactly (limits : SweepLimits) (compile : Int → Int → Request) (rows : List Row)
    (pageSize : Int) (calls : List Exchange) (report : Report) : Prop :=
  match report.ending with
  | .complete => report.rows = rows.take limits.maxRows.toNat
  | .error text => ∃ earlier start limit response,
      calls = earlier ++ [.query (compile start limit) (.ok response)] ∧
      response.failure? = some text ∧
      report.rows = rows.take start.toNat ∧
      (isTimeout text = false ∨ pageSizeAfter limits pageSize earlier ≤ limits.minPageSize)
  | .failed _ => False

/-- A call that does not end the sweep only comes in front. -/
theorem EndsExactly.cons {limits : SweepLimits} {compile : Int → Int → Request} {rows : List Row}
    {pageSize : Int} {request : Request} {response : Response} {calls : List Exchange}
    {report report' : Report} (hending : report'.ending = report.ending)
    (hrows : report'.rows = report.rows)
    (h : EndsExactly limits compile rows
      (pageSizeAfter limits pageSize [.query request (.ok response)]) calls report) :
    EndsExactly limits compile rows pageSize (.query request (.ok response) :: calls) report' := by
  unfold EndsExactly at h ⊢
  rw [hending, hrows]
  cases hend : report.ending with
  | complete => rwa [hend] at h
  | failed f => rwa [hend] at h
  | error text =>
    rw [hend] at h
    obtain ⟨earlier, start, limit, last, rfl, hfail, htake, hfloor⟩ := h
    exact ⟨.query request (.ok response) :: earlier, start, limit, last, rfl, hfail, htake, hfloor⟩

/-- **The sweep invariant.** As long as the rows gathered are those before the offset, a sweep over
the windows of a list ends exactly. -/
theorem Trace.endsExactly {limits : SweepLimits} {compile : Int → Int → Request} {c : Cursor}
    {calls : List Exchange} {report : Report} (h : Trace limits compile c calls report)
    (hfloor : 0 < limits.minPageSize) {rows : List Row}
    (hserved : ∀ x ∈ calls, Served compile rows x) (hpage : 0 < c.pageSize)
    (hoffset : 0 ≤ c.offset) (hcap : c.offset ≤ limits.maxRows)
    (hrows : c.rows = rows.take c.offset.toNat) :
    EndsExactly limits compile rows c.pageSize calls report := by
  induction h with
  | @capped c hreached =>
    show c.rows = rows.take limits.maxRows.toNat
    rw [hrows, show c.offset = limits.maxRows by omega]
  | @failed c f hbelow =>
    obtain ⟨response, hok, -⟩ := hserved _ (List.mem_singleton_self _) _ _ _ rfl hoffset
      (Cursor.limit_pos hpage hbelow)
    cases hok
  | @stopped c response text hbelow hfail hstop =>
    exact ⟨[], c.offset, c.limit limits, response, rfl, hfail, hrows, hstop⟩
  | @retried c response text calls report hbelow hfail htime habove _ ih =>
    refine .cons rfl rfl ?_
    rw [pageSizeAfter, hfail, Option.any_some, if_pos htime]
    exact ih (fun x hx => hserved x (List.mem_cons_of_mem _ hx)) (backOff_pos hfloor _) hoffset
      hcap hrows
  | @empty c response hbelow hok hnone =>
    have hlimit := Cursor.limit_pos hpage hbelow
    have hslice := (hserved _ (List.mem_singleton_self _)).page hoffset hlimit hok
    rw [hnone] at hslice
    have htake := take_append_slice rows hoffset hlimit
    rw [← hslice, List.append_nil] at htake
    show c.rows = rows.take limits.maxRows.toNat
    rw [hrows, htake, take_of_short hoffset (c.offset_add_limit_le limits) (by simpa [← hslice])]
  | @short c response hbelow hok hsome hshort =>
    have hlimit := Cursor.limit_pos hpage hbelow
    have hslice := (hserved _ (List.mem_singleton_self _)).page hoffset hlimit hok
    rw [hslice] at hshort
    show c.rows ++ response.rows = rows.take limits.maxRows.toNat
    rw [hrows, hslice, take_append_slice rows hoffset hlimit,
      take_of_short hoffset (c.offset_add_limit_le limits) hshort]
  | @full c response calls report hbelow hok hsome hfull _ ih =>
    have hlimit := Cursor.limit_pos hpage hbelow
    have hslice := (hserved _ List.mem_cons_self).page hoffset hlimit hok
    refine .cons rfl rfl ?_
    rw [pageSizeAfter, hok, Option.any_none, if_neg (by simp)]
    refine ih (fun x hx => hserved x (List.mem_cons_of_mem _ hx)) hpage ?_
      (c.offset_add_limit_le limits) ?_
    · exact Int.add_nonneg hoffset (Int.le_of_lt hlimit)
    · show c.rows ++ response.rows = rows.take (c.offset + c.limit limits).toNat
      rw [hrows, hslice, take_append_slice rows hoffset hlimit]

end Sweep

/-! ## The export -/

/-- **A sweep is exact.** Let each window that is asked for be answered with that window of `rows`,
or with an error that may depend on all that was asked before. A sweep that completes hands exactly
the rows up to the cap to the resolver. A sweep that ends with an error returns exactly the rows
before the start of its last request, with the error of that request's answer, which is no timeout
unless the page size had reached the floor. -/
theorem Engine.sweep_exact (e : Engine σ) (limits : SweepLimits) (hcap : 0 ≤ limits.maxRows)
    (hpage : 1 ≤ limits.pageSize) (hfloor : 1 ≤ limits.minPageSize) (q : QueryState)
    (rows : List Row) (now : Rat) (s : Session σ)
    (hserved : ∀ x ∈ Sweep.calls e.source e.mandatory limits q s.source,
      Sweep.Served (q.exportRequest e.mandatory) rows x) :
    let swept := Sweep.ofState e.source.query e.mandatory limits q s.source
    let outcome := (e.sweep limits now q s).1.outcome
    match swept.1.ending with
    | .complete =>
      swept.1.rows = rows.take limits.maxRows.toNat ∧
      outcome = (Resolve.rows e.source e.lookups now (rows.take limits.maxRows.toNat) q.table
        { s with source := swept.2 }).1.map fun found => { rows := found, count := found.length }
    | .error text => ∃ earlier start limit response,
      Sweep.calls e.source e.mandatory limits q s.source =
        earlier ++ [.query (q.exportRequest e.mandatory start limit) (.ok response)] ∧
      response.failure? = some text ∧
      outcome = .ok { rows := rows.take start.toNat, count := (rows.take start.toNat).length,
                      error := some text } ∧
      (isTimeout text = false ∨
        Sweep.pageSizeAfter limits limits.pageSize earlier ≤ limits.minPageSize)
    | .failed _ => False := by
  intro swept outcome
  have htrace := (Sweep.ofState_trace e.source e.mandatory limits hpage hfloor q s.source).2
  have hends : Sweep.EndsExactly limits (q.exportRequest e.mandatory) rows limits.pageSize
      (Sweep.calls e.source e.mandatory limits q s.source) swept.1 :=
    htrace.endsExactly hfloor hserved hpage Int.le_rfl hcap rfl
  have houtcome : outcome = e.conclude now q s.cache swept := e.sweep_outcome limits now q s
  unfold Sweep.EndsExactly at hends
  unfold Engine.conclude at houtcome
  cases hending : swept.1.ending with
  | complete =>
    rw [hending] at hends houtcome
    exact ⟨hends, by rw [houtcome, hends]⟩
  | error text =>
    rw [hending] at hends houtcome
    obtain ⟨earlier, start, limit, response, hcalls, hfail, htake, hstop⟩ := hends
    exact ⟨earlier, start, limit, response, hcalls, hfail, by rw [houtcome, htake], hstop⟩
  | failed f => rwa [hending] at hends

/-- Three rows, of which the second window times out. -/
def Sweep.interrupted : Engine Nat where
  source := scheduled [[("id", .text "0")], [("id", .text "1")], [("id", .text "2")]]
    fun n => if n = 1 then some "statement timeout" else none

theorem Engine.sweep_exact_interrupted :
    let e := Sweep.interrupted
    let limits : SweepLimits := { maxRows := 10, pageSize := 2, minPageSize := 1 }
    let rows : List Row := [[("id", .text "0")], [("id", .text "1")], [("id", .text "2")]]
    let q : QueryState := { table := "leads" }
    let s : Session Nat := { source := 0, cache := {} }
    let swept := Sweep.ofState e.source.query e.mandatory limits q s.source
    let outcome := (e.sweep limits 0 q s).1.outcome
    (0 ≤ limits.maxRows ∧ 1 ≤ limits.pageSize ∧ 1 ≤ limits.minPageSize ∧
      ∀ x ∈ Sweep.calls e.source e.mandatory limits q s.source,
        Sweep.Served (q.exportRequest e.mandatory) rows x) ∧
    match swept.1.ending with
    | .complete =>
      swept.1.rows = rows.take limits.maxRows.toNat ∧
      outcome = (Resolve.rows e.source e.lookups 0 (rows.take limits.maxRows.toNat) q.table
        { s with source := swept.2 }).1.map fun found => { rows := found, count := found.length }
    | .error text => ∃ earlier start limit response,
      Sweep.calls e.source e.mandatory limits q s.source =
        earlier ++ [.query (q.exportRequest e.mandatory start limit) (.ok response)] ∧
      response.failure? = some text ∧
      outcome = .ok { rows := rows.take start.toNat, count := (rows.take start.toNat).length,
                      error := some text } ∧
      (isTimeout text = false ∨
        Sweep.pageSizeAfter limits limits.pageSize earlier ≤ limits.minPageSize)
    | .failed _ => False := by
  intro e limits rows q s swept outcome
  have hans := (Sweep.ofState_trace e.source e.mandatory limits (by decide) (by decide)
    q s.source).1
  have hserved : ∀ x ∈ Sweep.calls e.source e.mandatory limits q s.source,
      Sweep.Served (q.exportRequest e.mandatory) rows x := fun x hx =>
    (Sweep.servesWindows_scheduled rows _ e.mandatory q).served (hans x hx)
  exact ⟨⟨by decide, by decide, by decide, hserved⟩,
    e.sweep_exact limits (by decide) (by decide) (by decide) q rows 0 s hserved⟩

end TableExplorer
