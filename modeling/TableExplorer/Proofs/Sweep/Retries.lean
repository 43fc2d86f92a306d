import TableExplorer.Proofs.Sweep.Exactness
import TableExplorer.Proofs.Sweep.Protocol

/-!
# Requests after a timeout

A timeout above the floor halves the page size, and the same offset is asked again. The page size
is a function of the timeouts so far (`pageSizeAfter`) and does get smaller with each of them; the
window that is asked for is cut at the cap. So the next window is smaller just where the smaller
page ends below the cap. Nearer to the cap both windows are the rows up to the cap, and the request
that timed out is sent once more as it was.

Main result: `Engine.sweep_retries`.
-/

namespace TableExplorer

variable {σ : Type}

/-- The call was answered with a timeout. -/
def Exchange.timesOut : Exchange → Bool
  | .query _ (.ok response) => response.failure?.any isTimeout
  | _ => false

namespace Sweep

variable {limits : SweepLimits} {compile : Int → Int → Request} {c : Cursor}
  {calls : List Exchange} {report : Report}

theorem pageSizeAfter_cons (pageSize : Int) (x : Exchange) (calls : List Exchange) :
    pageSizeAfter limits pageSize (x :: calls) =
      pageSizeAfter limits (if x.timesOut then backOff limits pageSize else pageSize) calls := by
  cases x with
  | query request answer => cases answer <;> rfl
  | lookup | describe | listTables => rfl

/-- Two calls for windows at the same offset: the first of a page size, the second of the one after
it. -/
def Retries (limits : SweepLimits) (compile : Int → Int → Request) (pageSize : Int)
    (x y : Exchange) : Prop :=
  ∃ start answer answer', 0 ≤ start ∧ start < limits.maxRows ∧
    x = .query (compile start (min pageSize (limits.maxRows - start))) answer ∧
    y = .query (compile start (min (backOff limits pageSize) (limits.maxRows - start))) answer'

theorem timesOut_of_timeout {request : Request} {response : Response} {text : String}
    (hfail : response.failure? = some text) (htime : isTimeout text = true) :
    (Exchange.query request (.ok response)).timesOut = true := by
  simp [Exchange.timesOut, hfail, htime]

theorem timesOut_of_rows {request : Request} {response : Response}
    (hok : response.failure? = none) :
    (Exchange.query request (.ok response)).timesOut = false := by
  simp [Exchange.timesOut, hok]

/-- **A timeout is followed by the same offset and the next page size.** -/
theorem Trace.retries (h : Trace limits compile c calls report) (hfloor : 0 < limits.minPageSize)
    (hpage : 0 < c.pageSize) (hoffset : 0 ≤ c.offset) {before after : List Exchange}
    {x y : Exchange} (hcalls : calls = before ++ x :: y :: after) (htime : x.timesOut = true) :
    let pageSize := pageSizeAfter limits c.pageSize before
    limits.minPageSize < pageSize ∧ Retries limits compile pageSize x y := by
  -- A trace of one call has no second one.
  have hsingle : ∀ (z : Exchange) (before : List Exchange), [z] ≠ before ++ x :: y :: after := by
    intro z before hz
    have hlength := congrArg List.length hz
    rw [List.length_singleton, List.length_append, List.length_cons, List.length_cons] at hlength
    omega
  induction h generalizing before with
  | capped _ => simp at hcalls
  | failed _ | stopped _ _ _ | empty _ _ _ | short _ _ _ _ => exact absurd hcalls (hsingle _ _)
  | @retried c response text calls report hbelow hfail htimeout habove hrest ih =>
    cases before with
    | nil =>
      rw [List.nil_append, List.cons.injEq] at hcalls
      obtain ⟨rfl, rfl⟩ := hcalls
      obtain ⟨answer, hy⟩ := hrest.head y rfl
      exact ⟨habove, c.offset, _, answer, hoffset, hbelow, rfl, hy⟩
    | cons z before =>
      rw [List.cons_append, List.cons.injEq] at hcalls
      obtain ⟨rfl, hcalls⟩ := hcalls
      rw [pageSizeAfter_cons, if_pos (timesOut_of_timeout hfail htimeout)]
      exact ih (backOff_pos hfloor _) hoffset hcalls
  | @full c response calls report hbelow hok hsome hfull hrest ih =>
    have hfirst : (Exchange.query (compile c.offset (c.limit limits)) (.ok response)).timesOut =
        false := timesOut_of_rows hok
    cases before with
    | nil =>
      rw [List.nil_append, List.cons.injEq] at hcalls
      rw [hcalls.1, htime] at hfirst
      cases hfirst
    | cons z before =>
      rw [List.cons_append, List.cons.injEq] at hcalls
      obtain ⟨rfl, hcalls⟩ := hcalls
      rw [pageSizeAfter_cons, hfirst, if_neg Bool.false_ne_true]
      have hadvanced : 0 ≤ (c.advanced limits response.rows).offset :=
        Int.add_nonneg hoffset (Int.le_of_lt (Cursor.limit_pos hpage hbelow))
      exact ih hpage hadvanced hcalls

/-- A window of a page size at an offset, and the window that is asked for there after a timeout. -/
structure Shrinks (limits : SweepLimits) (pageSize start limit limit' : Int) : Prop where
  /-- The next page size is smaller. -/
  smaller : limits.minPageSize < pageSize ∧ backOff limits pageSize < pageSize
  /-- Both windows lie within the cap, and neither is empty. -/
  within : 0 ≤ start ∧ 1 ≤ limit' ∧ limit' ≤ limit ∧ start + limit ≤ limits.maxRows
  /-- Fewer rows are asked for just if the next page ends below the cap. -/
  fewer_iff : limit' < limit ↔ start + backOff limits pageSize < limits.maxRows
  /-- Otherwise both windows are the rows up to the cap. -/
  repeated : limits.maxRows ≤ start + backOff limits pageSize →
    limit' = limit ∧ start + limit = limits.maxRows

theorem shrinks_of_above {pageSize start : Int} (hfloor : 0 < limits.minPageSize)
    (habove : limits.minPageSize < pageSize) (hstart : 0 ≤ start)
    (hbelow : start < limits.maxRows) :
    Shrinks limits pageSize start (min pageSize (limits.maxRows - start))
      (min (backOff limits pageSize) (limits.maxRows - start)) := by
  have hsmaller : backOff limits pageSize < pageSize := backOff_lt (by omega) habove
  have hnext : 0 < backOff limits pageSize := backOff_pos hfloor pageSize
  constructor
  case smaller => exact ⟨habove, hsmaller⟩
  case within => omega
  case fewer_iff => omega
  case repeated => omega

end Sweep

/-! ## The export -/

/-- **The request after a timeout**, whatever the source answers, is for the same offset, and never
for more rows. It is for fewer rows than the one that timed out if the next page size ends below the
cap; nearer to the cap it is the same request once more. -/
theorem Engine.sweep_retries (e : Engine σ) (limits : SweepLimits) (hpage : 1 ≤ limits.pageSize)
    (hfloor : 1 ≤ limits.minPageSize) (q : QueryState) (s : σ) (before after : List Exchange)
    (x y : Exchange)
    (hcalls : Sweep.calls e.source e.mandatory limits q s = before ++ x :: y :: after)
    (htime : x.timesOut = true) :
    ∃ start limit limit' answer answer',
      x = .query (q.exportRequest e.mandatory start limit) answer ∧
      y = .query (q.exportRequest e.mandatory start limit') answer' ∧
      Sweep.Shrinks limits (Sweep.pageSizeAfter limits limits.pageSize before) start limit
        limit' := by
  have htrace := (Sweep.ofState_trace e.source e.mandatory limits hpage hfloor q s).2
  obtain ⟨habove, start, answer, answer', hstart, hbelow, hx, hy⟩ :=
    htrace.retries hfloor hpage Int.le_rfl hcalls htime
  exact ⟨start, _, _, answer, answer', hx, hy,
    Sweep.shrinks_of_above hfloor habove hstart hbelow⟩

/-- A source that times out, and then loses its connection. -/
def Sweep.hurried : Scripted.Script where
  queries := .ok
    [.ok { error := some "statement timeout" }, .ok { error := some "connection lost" }]

/-- A page of two rows is no smaller than the rows up to the cap: the request that timed out at four
rows is sent again. -/
theorem Engine.sweep_retries_near_cap :
    let e : Engine Scripted.Script := { source := Scripted.source }
    let limits : SweepLimits := { maxRows := 2, pageSize := 4, minPageSize := 1 }
    let q : QueryState := { table := "leads" }
    let request := q.exportRequest e.mandatory 0 2
    let timeout : Exchange := .query request (.ok { error := some "statement timeout" })
    let lost : Exchange := .query request (.ok { error := some "connection lost" })
    (1 ≤ limits.pageSize ∧ 1 ≤ limits.minPageSize ∧ timeout.timesOut = true ∧
      Sweep.calls e.source e.mandatory limits q Sweep.hurried = [] ++ timeout :: lost :: []) ∧
    ∃ start limit limit' answer answer',
      timeout = .query (q.exportRequest e.mandatory start limit) answer ∧
      lost = .query (q.exportRequest e.mandatory start limit') answer' ∧
      Sweep.Shrinks limits (Sweep.pageSizeAfter limits limits.pageSize []) start limit limit' := by
  intro e limits q request timeout lost
  let compile := q.exportRequest e.mandatory
  let halted : Scripted.Script := (Scripted.source.query request Sweep.hurried).2
  have hlost : Sweep.run e.source.recorded.query compile limits 1000 2 0 [] (halted, [timeout]) =
      ((Sweep.stop [] (.error "connection lost")).sent request,
        ((Scripted.source.query request halted).2, [timeout, lost])) := by
    rw [Sweep.run]
    rfl
  have htimeout : Sweep.run e.source.recorded.query compile limits 1000 4 0 []
      (Sweep.hurried, []) =
        let rest := Sweep.run e.source.recorded.query compile limits 1000 2 0 []
          (halted, [timeout])
        (rest.1.sent request, rest.2) := by
    rw [Sweep.run]
    rfl
  have hcalls : Sweep.calls e.source e.mandatory limits q Sweep.hurried =
      [] ++ timeout :: lost :: [] := by
    show (Sweep.run e.source.recorded.query compile limits 1000 4 0 [] (Sweep.hurried, [])).2.2 = _
    rw [htimeout, hlost]
    rfl
  have htime : timeout.timesOut = true := by decide
  exact ⟨⟨by decide, by decide, htime, hcalls⟩,
    e.sweep_retries limits (by decide) (by decide) q Sweep.hurried [] [] timeout lost hcalls htime⟩

end TableExplorer
