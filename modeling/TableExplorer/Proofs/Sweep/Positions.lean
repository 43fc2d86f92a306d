import TableExplorer.Proofs.Sweep.Trace

/-!
# A sweep does not get past a failure

Let it be a matter of the single positions whether the call for a window is answered with rows: it
is, if none of them is spoiled. A sweep may be told of a spoiled position early, in a window that
times out, and go on with smaller windows from the same offset. It still cannot complete, since it
has to come to that position before.

The invariant is that no position before the offset is spoiled. A sweep that completes has come to
the cap, or to a window that is not full and has nothing spoiled behind it.

Main result: `Trace.clean_of_complete`.
-/

namespace TableExplorer.Sweep

/-- Whether the call for a window is answered with rows is a matter of the positions in it. Where
the window is not full, no position behind it is spoiled. An error has a text. -/
structure Positional (clean : Int → Prop) (cap start limit : Int)
    (answer : Except Failure Response) : Prop where
  clean_iff : Clean answer ↔ ∀ i, start ≤ i → i < start + limit → clean i
  behind : ∀ response, answer = .ok response → response.error = none →
    (response.rows.length : Int) < limit → ∀ i, start + limit ≤ i → i < cap → clean i
  told : ∀ response, answer = .ok response → response.error ≠ some ""

namespace Positional

variable {clean : Int → Prop} {cap start limit : Int} {response : Response}

theorem error_eq_none (h : Positional clean cap start limit (.ok response))
    (hok : response.failure? = none) : response.error = none := by
  cases herror : response.error with
  | none => rfl
  | some text =>
    have htext : text ≠ "" := by
      rintro rfl
      exact h.told response rfl herror
    simp [Response.failure?, herror, htext] at hok

/-- A page clears its window. -/
theorem clean_within (h : Positional clean cap start limit (.ok response))
    (hok : response.failure? = none) : ∀ i, start ≤ i → i < start + limit → clean i :=
  h.clean_iff.1 ⟨response, rfl, h.error_eq_none hok⟩

/-- A page that does not fill its window clears what is left up to the cap. -/
theorem clean_onwards (h : Positional clean cap start limit (.ok response))
    (hok : response.failure? = none) (hshort : (response.rows.length : Int) < limit) :
    ∀ i, start ≤ i → i < cap → clean i := by
  intro i hlow hhigh
  by_cases hin : i < start + limit
  · exact h.clean_within hok i hlow hin
  · exact h.behind response rfl (h.error_eq_none hok) hshort i (by omega) hhigh

end Positional

variable {limits : SweepLimits} {compile : Int → Int → Request} {c : Cursor}
  {calls : List Exchange} {report : Report} {clean : Int → Prop}

/-- Every window that is asked for is answered by its positions. -/
def AllPositional (clean : Int → Prop) (cap : Int) (compile : Int → Int → Request)
    (calls : List Exchange) : Prop :=
  ∀ start limit answer, .query (compile start limit) answer ∈ calls → 0 ≤ start → 0 < limit →
    start + limit ≤ cap → Positional clean cap start limit answer

theorem AllPositional.tail {x : Exchange} {cap : Int}
    (h : AllPositional clean cap compile (x :: calls)) : AllPositional clean cap compile calls :=
  fun start limit answer hmem => h start limit answer (List.mem_cons_of_mem _ hmem)

theorem AllPositional.head {answer : Except Failure Response}
    (h : AllPositional clean limits.maxRows compile
      (.query (compile c.offset (c.limit limits)) answer :: calls))
    (hpage : 0 < c.pageSize) (hoffset : 0 ≤ c.offset) (hbelow : c.offset < limits.maxRows) :
    Positional clean limits.maxRows c.offset (c.limit limits) answer :=
  h _ _ _ List.mem_cons_self hoffset (Cursor.limit_pos hpage hbelow)
    (Cursor.offset_add_limit_le limits c)

/-- **A sweep that completes has met no spoiled position**, and there is none up to the cap. -/
theorem Trace.clean_of_complete (h : Trace limits compile c calls report)
    (hfloor : 0 < limits.minPageSize) (hpage : 0 < c.pageSize) (hoffset : 0 ≤ c.offset)
    (hpositional : AllPositional clean limits.maxRows compile calls)
    (hcomplete : report.ending = .complete) :
    ∀ i, c.offset ≤ i → i < limits.maxRows → clean i := by
  induction h with
  | capped hreached =>
    intro i hlow hhigh
    omega
  | failed _ => cases hcomplete
  | stopped _ _ _ => cases hcomplete
  | @retried c response text calls report hbelow hfail htime habove _ ih =>
    exact ih (backOff_pos hfloor _) hoffset hpositional.tail hcomplete
  | @empty c response hbelow hok hnone =>
    have hlimit := Cursor.limit_pos hpage hbelow
    refine (hpositional.head hpage hoffset hbelow).clean_onwards hok ?_
    rw [hnone]
    exact hlimit
  | @short c response hbelow hok hsome hshort =>
    exact (hpositional.head hpage hoffset hbelow).clean_onwards hok hshort
  | @full c response calls report hbelow hok hsome hfull _ ih =>
    intro i hlow hhigh
    by_cases hin : i < c.offset + c.limit limits
    · exact (hpositional.head hpage hoffset hbelow).clean_within hok i hlow hin
    · have hlimit := Cursor.limit_pos hpage hbelow
      have hnext : 0 ≤ c.offset + c.limit limits := by omega
      have hbehind : c.offset + c.limit limits ≤ i := by omega
      exact ih hpage hnext hpositional.tail hcomplete i hbehind hhigh

/-- **Every call of a sweep that completes was answered with rows.** -/
theorem Trace.all_clean (h : Trace limits compile c calls report)
    (hfloor : 0 < limits.minPageSize) (hpage : 0 < c.pageSize) (hoffset : c.offset = 0)
    (hpositional : AllPositional clean limits.maxRows compile calls)
    (hcomplete : report.ending = .complete) {request : Request}
    {answer : Except Failure Response} (hmem : .query request answer ∈ calls) : Clean answer := by
  have hnonneg : 0 ≤ c.offset := by omega
  obtain ⟨start, limit, answer', heq, hstart, hlimit, hend⟩ :=
    h.windows hfloor hpage hnonneg _ hmem
  cases heq
  have hwindow := hpositional start limit answer hmem hstart hlimit hend
  refine hwindow.clean_iff.2 fun i hlow hhigh => ?_
  exact h.clean_of_complete hfloor hpage hnonneg hpositional hcomplete i (by omega) (by omega)

end TableExplorer.Sweep
