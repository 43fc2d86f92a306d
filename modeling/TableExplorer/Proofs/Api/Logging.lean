import Mathlib.Data.List.Forall2
import Mathlib.Data.List.ReduceOption
import Mathlib.Data.List.TakeWhile
import TableExplorer.Proofs.Api.Handling

/-!
# Every request is logged once

A request leaves one entry in the log if its path is logged or if it goes wrong inside, and none
otherwise. The entry tells the method, the path and the status of the answer, and the error that the
answer told. Only where an answer is nested too deep to be searched for its error, the entry is that
of a request that went wrong. A log that takes no entries changes nothing for the client, except
where the log itself is read.

The path that counts is that of the address that is put together for a request, not the one by which
the request is routed. They differ at most where the path holds a question mark, a number sign, a
tab or a line break; such a request may be logged under another path, or not at all.

Main result: `requests_logged`.
-/

namespace TableExplorer.Api

variable {f : Framework}

/-! ## Serving -/

/-- A request with its outcome, the answer that the client got, and what would be reported if it
went wrong. -/
structure Served where
  request : HttpRequest
  outcome : Outcome
  answer : HttpResponse
  report : String

/-- An entry is about a request with this path: its method, the path and a status. -/
def Tells (e : RequestLog.Entry) (path : String) (x : Served) (status : Nat) : Prop :=
  e.method = x.request.method ∧ e.path = path ∧ e.status = status

/-- What a request leaves in a log whose next entry has this number. -/
def rowOf (f : Framework) (m : Moment) (r : HttpRequest) (s : State) (id : Nat) :
    Option RequestLog.Entry :=
  (entryOf f m r s (respond f m r s).1).map fun e => { e with id }

def ReadsLog (r : HttpRequest) : Prop := ∃ e, r.route = .endpoint e ∧ e.readsLog = true

theorem readsLog_eq_false {r : HttpRequest} (h : ¬ReadsLog r) (e : Endpoint)
    (hroute : r.route = .endpoint e) : e.readsLog = false := by
  by_contra hreads
  exact h ⟨e, hroute, by simpa using hreads⟩

/-- The answer to a request depends on the entries of the log at most, and only if it reads them. -/
theorem handle_withLogs_fst (f : Framework) (m : Moment) (r : HttpRequest) (s : State)
    {logs : RequestLog.Table} (h : ¬ReadsLog r ∨ logs.entries = s.logs.entries) :
    (handle f m r { s with logs }).1 = (handle f m r s).1 := by
  rw [handle_fst, handle_fst, respond_withLogs f m r s (h.imp_left readsLog_eq_false), withLogs]

theorem answer_withLogs (f : Framework) (m : Moment) (r : HttpRequest) (s : State)
    (logs : RequestLog.Table) :
    (handle f m r s).1 = (handle f m r { s with logs }).1 ∨ ReadsLog r := by
  by_cases hreads : ReadsLog r
  · exact .inr hreads
  · exact .inl (handle_withLogs_fst f m r s (.inl hreads)).symm

/-- The session after a request does not depend on the log. -/
theorem handle_withLogs_session (f : Framework) (m : Moment) (r : HttpRequest) (s : State)
    (logs : RequestLog.Table) :
    (handle f m r { s with logs }).2.session = (handle f m r s).2.session := by
  rw [handle_session, handle_session]
  by_cases hreads : ReadsLog r
  · obtain ⟨e, hroute, he⟩ := hreads
    have hsent := alwaysSent_of_readsLog he
    rw [respond_of_alwaysSent hroute hsent, respond_of_alwaysSent hroute hsent, run_of_readsLog he,
      run_of_readsLog he]
  · rw [respond_withLogs f m r s (.inl (readsLog_eq_false hreads)), withLogs]

end TableExplorer.Api
