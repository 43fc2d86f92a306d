import TableExplorer.Engine

/-!
# Outcomes of the engine

An export is a sweep and what is made of its report; a page is a request and what is made of its
answer. The second parts are named here, so that what holds of sweeps and of answers can be carried
over to results.
-/

namespace TableExplorer.Engine

variable {σ : Type}

/-- What an export makes of a sweep: the rows of a complete one are resolved, those gathered before
an error are kept, and a failed call fails the export. -/
def conclude (e : Engine σ) (now : Rat) (q : QueryState) (cache : LookupCache)
    (swept : Sweep.Report × σ) : Except Failure QueryResult :=
  match swept.1.ending with
  | .complete =>
    (Resolve.rows e.source e.lookups now swept.1.rows q.table { source := swept.2, cache }).1.map
      fun found => { rows := found, count := found.length }
  | .error text => .ok { rows := swept.1.rows, count := swept.1.rows.length, error := some text }
  | .failed f => .error f

theorem sweep_outcome (e : Engine σ) (limits : SweepLimits) (now : Rat) (q : QueryState)
    (s : Session σ) :
    (e.sweep limits now q s).1.outcome =
      e.conclude now q s.cache (Sweep.ofState e.source.query e.mandatory limits q s.source) := by
  rcases hswept : Sweep.ofState e.source.query e.mandatory limits q s.source with ⟨report, state⟩
  simp only [sweep, conclude, hswept]
  cases report.ending with
  | failed f => rfl
  | error text => rfl
  | complete =>
    obtain ⟨found, s'⟩ :=
      Resolve.rows e.source e.lookups now report.rows q.table { source := state, cache := s.cache }
    cases found <;> rfl

/-- The result that reports an outcome. -/
def reported : Except Failure QueryResult → QueryResult
  | .ok result => result
  | .error f => .ofFailure f

theorem fetchAllForExport_outcome (e : Engine σ) (now : Rat) {q : QueryState}
    (htable : q.table ≠ "") (s : Session σ) :
    (e.fetchAllForExport now q s).1 = reported (e.sweep {} now q s).1.outcome := by
  have hempty : q.table.isEmpty = false := by simpa using htable
  unfold fetchAllForExport
  rw [hempty, if_neg Bool.false_ne_true]
  obtain ⟨⟨outcome, progress⟩, s'⟩ := e.sweep {} now q s
  cases outcome <;> rfl

/-- What a page makes of an answer: its rows are resolved, and it reports the count. -/
def concludePage (e : Engine σ) (now : Rat) (q : QueryState) (cache : LookupCache)
    (answered : Except Failure Response × σ) : Except Failure QueryResult :=
  match answered.1 with
  | .error f => .error f
  | .ok response =>
    match response.failure? with
    | some text => .ok { error := some text }
    | none =>
      (Resolve.rows e.source e.lookups now response.rows q.table
        { source := answered.2, cache }).1.map
        fun found => { rows := found, count := response.count.getD 0 }

theorem executeQuery_outcome (e : Engine σ) (now : Rat) {q : QueryState} (htable : q.table ≠ "")
    (s : Session σ) :
    (e.executeQuery now q s).1 = reported (e.concludePage now q s.cache
      (e.source.query (q.pageRequest e.mandatory) s.source)) := by
  have hempty : q.table.isEmpty = false := by simpa using htable
  rcases hanswer : e.source.query (q.pageRequest e.mandatory) s.source with ⟨answer, state⟩
  simp only [executeQuery, concludePage, hempty, hanswer, Bool.false_eq_true, if_false]
  cases answer with
  | error f => rfl
  | ok response =>
    cases hfail : response.failure? with
    | some text => simp [reported, hfail]
    | none =>
      simp only [hfail]
      obtain ⟨found, s'⟩ := Resolve.rows e.source e.lookups now response.rows q.table
        { source := state, cache := s.cache }
      cases found <;> rfl

end TableExplorer.Engine
