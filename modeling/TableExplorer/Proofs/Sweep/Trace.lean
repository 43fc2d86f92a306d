import TableExplorer.Proofs.Exchanges
import TableExplorer.Sweep

/-!
# Traces of sweeps

A sweep is a loop over windows. Its cursor holds the page size, the offset and the rows gathered
so far; each answer ends the sweep, moves the cursor on, or makes its page smaller. `Trace` lists
the ways in which this can go, one constructor each, and relates the cursor to the calls that
follow and to the report.

With a positive page size and a positive floor no request repeats the one before, so the number of
repetitions that a sweep is allowed plays no part.

Main result: `run_trace`, every sweep with such bounds follows a trace.
-/

namespace TableExplorer.Sweep

variable {σ : Type}

/-- Where a sweep stands before a request. -/
structure Cursor where
  pageSize : Int
  offset : Int
  rows : List Row

namespace Cursor

def limit (limits : SweepLimits) (c : Cursor) : Int := min c.pageSize (limits.maxRows - c.offset)

def advanced (limits : SweepLimits) (c : Cursor) (page : List Row) : Cursor :=
  { c with offset := c.offset + c.limit limits, rows := c.rows ++ page }

def shrunk (limits : SweepLimits) (c : Cursor) : Cursor :=
  { c with pageSize := backOff limits c.pageSize }

theorem limit_pos {limits : SweepLimits} {c : Cursor} (hpage : 0 < c.pageSize)
    (hcap : c.offset < limits.maxRows) : 0 < c.limit limits := by
  unfold limit
  omega

theorem offset_add_limit_le (limits : SweepLimits) (c : Cursor) :
    c.offset + c.limit limits ≤ limits.maxRows := by
  unfold limit
  omega

end Cursor

theorem backOff_pos {limits : SweepLimits} (hfloor : 0 < limits.minPageSize) (pageSize : Int) :
    0 < backOff limits pageSize := by
  unfold backOff
  omega

theorem backOff_lt {limits : SweepLimits} {pageSize : Int} (hpage : 0 < pageSize)
    (habove : limits.minPageSize < pageSize) : backOff limits pageSize < pageSize := by
  unfold backOff
  omega

/-! ## The ways a sweep goes -/

/-- From a cursor, the calls that follow and the report. -/
inductive Trace (limits : SweepLimits) (compile : Int → Int → Request) :
    Cursor → List Exchange → Report → Prop
  /-- The cap is reached. -/
  | capped {c : Cursor} : limits.maxRows ≤ c.offset →
      Trace limits compile c [] (stop c.rows .complete)
  /-- The call fails. -/
  | failed {c : Cursor} {f : Failure} : c.offset < limits.maxRows →
      Trace limits compile c [.query (compile c.offset (c.limit limits)) (.error f)]
        ((stop c.rows (.failed f)).sent (compile c.offset (c.limit limits)))
  /-- The answer is an error that is not worth a smaller page. -/
  | stopped {c : Cursor} {response : Response} {text : String} : c.offset < limits.maxRows →
      response.failure? = some text → (isTimeout text = false ∨ c.pageSize ≤ limits.minPageSize) →
      Trace limits compile c [.query (compile c.offset (c.limit limits)) (.ok response)]
        ((stop c.rows (.error text)).sent (compile c.offset (c.limit limits)))
  /-- A timeout above the floor. -/
  | retried {c : Cursor} {response : Response} {text : String} {calls : List Exchange}
      {report : Report} : c.offset < limits.maxRows → response.failure? = some text →
      isTimeout text = true → limits.minPageSize < c.pageSize →
      Trace limits compile (c.shrunk limits) calls report →
      Trace limits compile c (.query (compile c.offset (c.limit limits)) (.ok response) :: calls)
        (report.sent (compile c.offset (c.limit limits)))
  /-- An empty page. -/
  | empty {c : Cursor} {response : Response} : c.offset < limits.maxRows →
      response.failure? = none → response.rows = [] →
      Trace limits compile c [.query (compile c.offset (c.limit limits)) (.ok response)]
        ((stop c.rows .complete).sent (compile c.offset (c.limit limits)))
  /-- A page that is not full. -/
  | short {c : Cursor} {response : Response} : c.offset < limits.maxRows →
      response.failure? = none → response.rows ≠ [] →
      (response.rows.length : Int) < c.limit limits →
      Trace limits compile c [.query (compile c.offset (c.limit limits)) (.ok response)]
        (((stop (c.rows ++ response.rows) .complete).announced
          (c.rows ++ response.rows).length).sent (compile c.offset (c.limit limits)))
  /-- A full page. -/
  | full {c : Cursor} {response : Response} {calls : List Exchange} {report : Report} :
      c.offset < limits.maxRows → response.failure? = none → response.rows ≠ [] →
      c.limit limits ≤ response.rows.length →
      Trace limits compile (c.advanced limits response.rows) calls report →
      Trace limits compile c (.query (compile c.offset (c.limit limits)) (.ok response) :: calls)
        ((report.announced (c.rows ++ response.rows).length).sent
          (compile c.offset (c.limit limits)))

/-! ## What a trace asks for -/

/-- Every call of a trace asks for a window that is not empty and does not reach past the cap. -/
theorem Trace.windows {limits : SweepLimits} {compile : Int → Int → Request} {c : Cursor}
    {calls : List Exchange} {report : Report} (h : Trace limits compile c calls report)
    (hfloor : 0 < limits.minPageSize) (hpage : 0 < c.pageSize) (hoffset : 0 ≤ c.offset) :
    ∀ x ∈ calls, ∃ start limit answer, x = .query (compile start limit) answer ∧
      0 ≤ start ∧ 0 < limit ∧ start + limit ≤ limits.maxRows := by
  have hfirst : ∀ {c : Cursor} {answer : Except Failure Response} {x : Exchange},
      0 < c.pageSize → 0 ≤ c.offset → c.offset < limits.maxRows →
      x = .query (compile c.offset (c.limit limits)) answer →
      ∃ start limit answer, x = .query (compile start limit) answer ∧
        0 ≤ start ∧ 0 < limit ∧ start + limit ≤ limits.maxRows :=
    fun hpage hoffset hbelow hx =>
      ⟨_, _, _, hx, hoffset, Cursor.limit_pos hpage hbelow, Cursor.offset_add_limit_le limits _⟩
  induction h with
  | capped _ => simp
  | failed hbelow | stopped hbelow | empty hbelow | short hbelow =>
    exact fun x hx => hfirst hpage hoffset hbelow (List.mem_singleton.1 hx)
  | retried hbelow _ _ _ _ ih =>
    intro x hx
    rcases List.mem_cons.1 hx with rfl | hx
    · exact hfirst hpage hoffset hbelow rfl
    · exact ih (backOff_pos hfloor _) hoffset x hx
  | full hbelow _ _ _ _ ih =>
    intro x hx
    rcases List.mem_cons.1 hx with rfl | hx
    · exact hfirst hpage hoffset hbelow rfl
    · exact ih hpage (Int.add_nonneg hoffset (Int.le_of_lt (Cursor.limit_pos hpage hbelow))) x hx

/-- A sweep is complete if no call fails and no answer is an error. -/
theorem Trace.complete {limits : SweepLimits} {compile : Int → Int → Request} {c : Cursor}
    {calls : List Exchange} {report : Report} (h : Trace limits compile c calls report)
    (hok : ∀ request answer, .query request answer ∈ calls →
      ∃ response, answer = .ok response ∧ response.failure? = none) :
    report.ending = .complete := by
  induction h with
  | capped _ | empty _ _ _ | short _ _ _ _ => rfl
  | failed _ =>
    obtain ⟨response, heq, -⟩ := hok _ _ List.mem_cons_self
    cases heq
  | stopped _ hfail _ =>
    obtain ⟨response, heq, hnone⟩ := hok _ _ List.mem_cons_self
    cases heq
    rw [hfail] at hnone
    cases hnone
  | retried _ _ _ _ _ ih | full _ _ _ _ _ ih =>
    exact ih fun request answer hx => hok request answer (List.mem_cons_of_mem _ hx)

/-! ## Every sweep follows a trace -/

theorem answeredBy_of_query {ds : DataSource σ} {request : Request} {s s' : σ}
    {answer : Except Failure Response} (h : ds.query request s = (answer, s')) :
    Exchange.AnsweredBy ds (.query request answer) := ⟨s, by rw [h]⟩

/-- **Every sweep follows a trace.** The recorded calls of a sweep with a positive page size and a
positive floor are those of a trace that ends in its report, and recording changes nothing else. -/
theorem run_trace (ds : DataSource σ) (compile : Int → Int → Request) {limits : SweepLimits}
    (hfloor : 0 < limits.minPageSize) (patience : Nat) (pageSize offset : Int) (rows : List Row)
    (s : σ) (log : List Exchange) (hpage : 0 < pageSize) :
    let swept := run ds.query compile limits patience pageSize offset rows s
    ∃ calls : List Exchange,
      run ds.recorded.query compile limits patience pageSize offset rows (s, log) =
        (swept.1, (swept.2, log ++ calls)) ∧
      (∀ x ∈ calls, x.AnsweredBy ds) ∧
      Trace limits compile ⟨pageSize, offset, rows⟩ calls swept.1 := by
  fun_induction run ds.query compile limits patience pageSize offset rows s generalizing log with
  | case1 patience pageSize offset rows s hcap limit request f s' hq =>
    refine ⟨[.query request (.error f)], ?_, ?_, .failed hcap⟩
    · rw [run]
      simp [hcap, ds.recorded_query, hq, request, limit]
    · simpa using answeredBy_of_query hq
  | case2 patience pageSize offset rows s hcap limit request response s' hq text hfail htime hsmall
      report s'' hrest ih =>
    simp only [Bool.and_eq_true, decide_eq_true_eq] at htime
    obtain ⟨calls, heq, hans, htrace⟩ :=
      ih (log ++ [.query request (.ok response)]) (backOff_pos hfloor pageSize)
    rw [hrest] at heq htrace
    refine ⟨.query request (.ok response) :: calls, ?_, ?_,
      .retried hcap hfail htime.1 htime.2 htrace⟩
    · rw [run]
      simp [hcap, ds.recorded_query, hq, hfail, htime, hsmall, heq, request, limit]
    · simpa using ⟨answeredBy_of_query hq, hans⟩
  -- Above the floor a page size does shrink, so patience is never spent on timeouts.
  | case3 _ pageSize _ _ _ _ _ _ _ _ _ _ _ htime hsmall
  | case4 _ pageSize _ _ _ _ _ _ _ _ _ _ _ htime hsmall =>
    simp only [Bool.and_eq_true, decide_eq_true_eq] at htime
    exact absurd ⟨hpage, backOff_lt hpage htime.2⟩ hsmall
  | case5 patience pageSize offset rows s hcap limit request response s' hq text hfail htime =>
    refine ⟨[.query request (.ok response)], ?_, ?_, .stopped hcap hfail ?_⟩
    · rw [run]
      simp [hcap, ds.recorded_query, hq, hfail, htime, request, limit]
    · simpa using answeredBy_of_query hq
    · simp only [Bool.and_eq_true, decide_eq_true_eq, not_and, Int.not_lt] at htime
      exact (Bool.eq_false_or_eq_true _).symm.imp_right htime
  | case6 patience pageSize offset rows s hcap limit request response s' hq hfail hnone =>
    refine ⟨[.query request (.ok response)], ?_, ?_, .empty hcap hfail (List.isEmpty_iff.1 hnone)⟩
    · rw [run]
      simp [hcap, ds.recorded_query, hq, hfail, hnone, request, limit]
    · simpa using answeredBy_of_query hq
  | case7 patience pageSize offset rows s hcap limit request response s' hq hfail hsome gathered
      hshort =>
    refine ⟨[.query request (.ok response)], ?_, ?_,
      .short hcap hfail (by simpa using hsome) hshort⟩
    · rw [run]
      simp only [hcap, ds.recorded_query, hq, hfail, hsome, hshort, request, limit, gathered,
        dite_true, if_false, if_true, Bool.false_eq_true]
    · simpa using answeredBy_of_query hq
  | case8 patience pageSize offset rows s hcap limit request response s' hq hfail hsome gathered
      hfull hpos report s'' hrest ih =>
    obtain ⟨calls, heq, hans, htrace⟩ := ih (log ++ [.query request (.ok response)]) hpage
    rw [hrest] at heq htrace
    refine ⟨.query request (.ok response) :: calls, ?_, ?_,
      .full hcap hfail (by simpa using hsome) (Int.not_lt.1 hfull) htrace⟩
    · rw [run]
      simp [hcap, ds.recorded_query, hq, hfail, hsome, hfull, hpos, heq, request, limit, gathered]
    · simpa using ⟨answeredBy_of_query hq, hans⟩
  -- A window below the cap holds at least one row, so patience is never spent on pages.
  | case9 _ _ _ _ _ hcap _ _ _ _ _ _ _ _ _ hzero
  | case10 _ _ _ _ _ hcap _ _ _ _ _ _ _ _ _ hzero =>
    exact absurd (Cursor.limit_pos (c := ⟨_, _, []⟩) hpage hcap) hzero
  | case11 patience pageSize offset rows s hcap =>
    refine ⟨[], ?_, by simp, .capped (Int.not_lt.1 hcap)⟩
    rw [run]
    simp [hcap]

/-- The calls of the sweep of a query, with their answers. -/
def calls (ds : DataSource σ) (mandatory : Registry.MandatoryFilters) (limits : SweepLimits)
    (q : QueryState) (s : σ) : List Exchange :=
  (ofState ds.recorded.query mandatory limits q (s, [])).2.2

theorem ofState_trace (ds : DataSource σ) (mandatory : Registry.MandatoryFilters)
    (limits : SweepLimits) (hpage : 0 < limits.pageSize) (hfloor : 0 < limits.minPageSize)
    (q : QueryState) (s : σ) :
    (∀ x ∈ calls ds mandatory limits q s, x.AnsweredBy ds) ∧
      Trace limits (q.exportRequest mandatory) ⟨limits.pageSize, 0, []⟩
        (calls ds mandatory limits q s) (ofState ds.query mandatory limits q s).1 := by
  obtain ⟨found, heq, hans, htrace⟩ := run_trace ds (q.exportRequest mandatory) hfloor
    limits.patience limits.pageSize 0 [] s [] hpage
  have hcalls : calls ds mandatory limits q s = found := by
    unfold calls ofState
    rw [heq, List.nil_append]
  rw [hcalls]
  exact ⟨hans, htrace⟩

theorem ofState_recorded (ds : DataSource σ) (mandatory : Registry.MandatoryFilters)
    (limits : SweepLimits) (hpage : 0 < limits.pageSize) (hfloor : 0 < limits.minPageSize)
    (q : QueryState) (s : σ) :
    ofState ds.recorded.query mandatory limits q (s, []) =
      let swept := ofState ds.query mandatory limits q s
      (swept.1, (swept.2, calls ds mandatory limits q s)) := by
  obtain ⟨found, heq, -, -⟩ := run_trace ds (q.exportRequest mandatory) hfloor
    limits.patience limits.pageSize 0 [] s [] hpage
  unfold calls ofState
  rw [heq]

end TableExplorer.Sweep
