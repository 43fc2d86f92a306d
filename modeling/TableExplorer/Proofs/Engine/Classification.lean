import TableExplorer.Proofs.Resolve.Relabel
import TableExplorer.Proofs.Resolve.Trace
import TableExplorer.Proofs.Sweep.Protocol

/-!
# Every result is told by its calls

A query can go wrong in its request, in any lookup of labels, or in the middle of a sweep, by a call
that fails or by an answer that is an error. Each way has its own rule for what is kept. Here the
calls are written down, and the result is read off them: by the first call whose failure is not
passed over (`Exchange.fatal?`), and else by the last answer.

Main result: `Engine.outcomes_classified`.
-/

namespace TableExplorer

variable {σ : Type}

/-- The failure of a call, unless it is passed over: a lookup in which the source fails is. -/
def Exchange.fatal? : Exchange → Option Failure
  | .query _ (.error f) => some f
  | .lookup _ (.error f) => if f.kind = .source then none else some f
  | _ => none

/-- The first failure that is not passed over. -/
def fatal? (calls : List Exchange) : Option Failure := calls.findSome? Exchange.fatal?

theorem fatal?_append (calls calls' : List Exchange) :
    fatal? (calls ++ calls') = (fatal? calls).or (fatal? calls') :=
  List.findSome?_append

/-- A call for labels. -/
def Exchange.IsLookup (x : Exchange) : Prop := ∃ request answer, x = .lookup request answer

theorem Sweep.Trace.fatal?_eq {limits : SweepLimits} {compile : Int → Int → Request}
    {c : Sweep.Cursor} {calls : List Exchange} {report : Sweep.Report}
    (h : Sweep.Trace limits compile c calls report) :
    fatal? calls = match report.ending with
      | .failed f => some f
      | _ => none := by
  induction h with
  | retried _ _ _ _ _ ih | full _ _ _ _ _ ih => exact ih
  | _ => rfl

theorem pages_of_lookups {calls : List Exchange} (h : ∀ x ∈ calls, x.IsLookup) :
    Sweep.pages calls = [] := by
  refine List.filterMap_eq_nil_iff.2 fun x hx => ?_
  obtain ⟨request, answer, rfl⟩ := h x hx
  rfl

/-! ## Resolutions -/

namespace Resolve

variable {now : Rat} {found : List Row} {cache cache' : LookupCache} {calls : List Exchange}
  {outcome : Except Failure (List Row)}

/-- A column fails exactly if its lookup does and is not passed over. -/
theorem ColumnTrace.outcome_eq {name : String} {source : Registry.LookupSource}
    (h : ColumnTrace now name source found cache calls outcome cache') :
    match fatal? calls with
    | some f => outcome = .error f
    | none => ∃ labels, outcome = .ok (found.map (substitute name labels)) := by
  cases h with
  | vacant hids =>
    refine ⟨[], ?_⟩
    rw [show substitute name [] = id from funext (substitute_nil name), List.map_id]
  | known _ _ => exact ⟨_, rfl⟩
  | found _ _ _ => exact ⟨_, rfl⟩
  | passed _ _ _ hkind =>
    simp only [fatal?, List.findSome?_cons, List.findSome?_nil, Exchange.fatal?, hkind, if_true]
    exact ⟨_, rfl⟩
  | failed _ _ _ hkind =>
    simp [fatal?, Exchange.fatal?, hkind]

/-- **A resolution fails exactly if a lookup does and is not passed over.** Otherwise it substitutes
labels in the columns that it goes through, and no row is lost. -/
theorem Trace.outcome_eq {columns : Dict Registry.LookupSource}
    (h : Trace now columns found cache calls outcome cache') :
    match fatal? calls with
    | some f => outcome = .error f
    | none => ∃ steps, Dict.keys steps = Dict.keys columns ∧
        outcome = .ok (found.map (substituteAll steps)) := by
  induction h with
  | done => exact ⟨[], rfl, by rw [show substituteAll [] = id from rfl, List.map_id]⟩
  | @step name source rest found found' cache cache' cache'' calls calls' outcome hcolumn _ ih =>
    have hfirst := hcolumn.outcome_eq
    rw [fatal?_append]
    cases hfatal : fatal? calls with
    | some f =>
      rw [hfatal] at hfirst
      cases hfirst
    | none =>
      rw [hfatal] at hfirst
      obtain ⟨labels, heq⟩ := hfirst
      cases heq
      rw [Option.none_or]
      cases hrest : fatal? calls' with
      | some f =>
        rw [hrest] at ih
        exact ih
      | none =>
        rw [hrest] at ih
        obtain ⟨steps, hkeys, houtcome⟩ := ih
        refine ⟨(name, labels) :: steps, ?_, ?_⟩
        · rw [Dict.keys_cons, Dict.keys_cons, hkeys]
        · rw [houtcome, map_substituteAll_cons]
  | failed hcolumn =>
    have hfirst := hcolumn.outcome_eq
    cases hfatal : fatal? _ with
    | some f =>
      rw [hfatal] at hfirst
      exact hfirst
    | none =>
      rw [hfatal] at hfirst
      obtain ⟨labels, heq⟩ := hfirst
      cases heq

theorem rows_recorded (ds : DataSource σ) (lookups : Registry.Lookups) (now : Rat)
    (found : List Row) (table : String) (s : Session σ) (log : List Exchange) :
    let run := rows ds lookups now found table s
    ∃ calls : List Exchange,
      rows ds.recorded lookups now found table { source := (s.source, log), cache := s.cache } =
        (run.1, { source := (run.2.source, log ++ calls), cache := run.2.cache }) ∧
      (∀ x ∈ calls, x.IsLookup) ∧
      match fatal? calls with
      | some f => run.1 = .error f
      | none => ∃ steps, Dict.keys steps = Dict.keys (mappedColumns lookups table found) ∧
          run.1 = .ok (found.map (substituteAll steps)) := by
  obtain ⟨calls, heq, -, htrace⟩ :=
    columns_trace ds now (mappedColumns lookups table found) found s log
  rw [← rows_eq, ← rows_eq] at heq
  rw [← rows_eq] at htrace
  refine ⟨calls, heq, fun x hx => ?_, htrace.outcome_eq⟩
  obtain ⟨_, _, ids, answer, rfl⟩ := htrace.lookups x hx
  exact ⟨_, _, rfl⟩

end Resolve

namespace Engine

/-! ## The recorded engine -/

/-- The engine that writes down its calls. -/
def recorded (e : Engine σ) : Engine (σ × List Exchange) where
  source := e.source.recorded
  mandatory := e.mandatory
  lookups := e.lookups

/-- The calls of a page, with their answers. -/
def pageCalls (e : Engine σ) (now : Rat) (q : QueryState) (s : Session σ) : List Exchange :=
  (e.recorded.executeQuery now q { source := (s.source, []), cache := s.cache }).2.source.2

/-- The calls of an export, with their answers. -/
def exportCalls (e : Engine σ) (now : Rat) (q : QueryState) (s : Session σ) : List Exchange :=
  (e.recorded.fetchAllForExport now q { source := (s.source, []), cache := s.cache }).2.source.2

theorem report_ne_empty (f : Failure) : f.report ≠ "" := by
  unfold Failure.report
  split
  · decide
  next htext => simpa using htext

theorem text_ne_empty_of_failure {response : Response} {text : String}
    (h : response.failure? = some text) : text ≠ "" := by
  unfold Response.failure? at h
  split at h
  · split at h
    · cases h
    next htext =>
      cases h
      simpa using htext
  · cases h

theorem ofFailure_eq (f : Failure) : QueryResult.ofFailure f =
    { rows := [], count := 0
      error := some (if f.text = "" then "Unknown error" else f.text) } := by
  unfold QueryResult.ofFailure Failure.report unknownError
  simp only [String.isEmpty_iff]

theorem error_ofFailure_ne {f : Failure} {text : String}
    (h : (QueryResult.ofFailure f).error = some text) : text ≠ "" := by
  cases h
  exact report_ne_empty f

/-- What a resolution does, told by its lookups. -/
def Resolves (e : Engine σ) (now : Rat) (table : String) (found : List Row) (s : Session σ)
    (lookups : List Exchange) (outcome : Except Failure (List Row)) : Prop :=
  (Resolve.rows e.source e.lookups now found table s).1 = outcome ∧
    (∀ x ∈ lookups, x.IsLookup) ∧
    match fatal? lookups with
    | some f => outcome = .error f
    | none => ∃ steps, outcome = .ok (found.map (Resolve.substituteAll steps))

theorem rows_recorded (e : Engine σ) (now : Rat) (table : String) (found : List Row)
    (s : Session σ) (log : List Exchange) :
    ∃ lookups outcome s', e.Resolves now table found s lookups outcome ∧
      Resolve.rows e.source e.lookups now found table s = (outcome, s') ∧
      Resolve.rows e.recorded.source e.recorded.lookups now found table
        { source := (s.source, log), cache := s.cache } =
        (outcome, { source := (s'.source, log ++ lookups), cache := s'.cache }) := by
  obtain ⟨lookups, heq, hlookups, houtcome⟩ :=
    Resolve.rows_recorded e.source e.lookups now found table s log
  refine ⟨lookups, _, _, ⟨rfl, hlookups, ?_⟩, rfl, heq⟩
  cases hfatal : fatal? lookups with
  | some f =>
    rw [hfatal] at houtcome
    exact houtcome
  | none =>
    rw [hfatal] at houtcome
    obtain ⟨steps, -, hrows⟩ := houtcome
    exact ⟨steps, hrows⟩

/-! ## Pages -/

/-- The ways a page goes: its calls and its result. -/
inductive PageTrace (e : Engine σ) (now : Rat) (q : QueryState) (s : Session σ) :
    List Exchange → QueryResult → Prop
  /-- There is no table. -/
  | untouched : q.table = "" → PageTrace e now q s [] {}
  /-- The call fails. -/
  | failed {f : Failure} : q.table ≠ "" →
      PageTrace e now q s [.query (q.pageRequest e.mandatory) (.error f)] (.ofFailure f)
  /-- The answer is an error. -/
  | refused {response : Response} {text : String} : q.table ≠ "" →
      response.failure? = some text →
      PageTrace e now q s [.query (q.pageRequest e.mandatory) (.ok response)]
        { error := some text }
  /-- The rows of the answer are resolved. -/
  | resolved {response : Response} {lookups : List Exchange}
      {outcome : Except Failure (List Row)} : q.table ≠ "" → response.failure? = none →
      e.Resolves now q.table response.rows
        { s with source := (e.source.query (q.pageRequest e.mandatory) s.source).2 }
        lookups outcome →
      PageTrace e now q s (.query (q.pageRequest e.mandatory) (.ok response) :: lookups)
        (reported (outcome.map fun found =>
          { rows := found, count := response.count.getD 0 }))

/-- **Every page follows a trace.** -/
theorem page_trace (e : Engine σ) (now : Rat) (q : QueryState) (s : Session σ) :
    e.PageTrace now q s (e.pageCalls now q s) (e.executeQuery now q s).1 := by
  by_cases htable : q.table = ""
  · have hcalls : e.pageCalls now q s = [] := by simp [pageCalls, executeQuery, htable]
    have hresult : (e.executeQuery now q s).1 = {} := by simp [executeQuery, htable]
    rw [hcalls, hresult]
    exact .untouched htable
  have hempty : q.table.isEmpty = false := by simpa using htable
  rcases hanswer : e.source.query (q.pageRequest e.mandatory) s.source with ⟨answer, state⟩
  have hrecorded : e.recorded.source.query (q.pageRequest e.recorded.mandatory) (s.source, []) =
      (answer, (state, [.query (q.pageRequest e.mandatory) answer])) := by
    show e.source.recorded.query (q.pageRequest e.mandatory) (s.source, []) = _
    rw [e.source.recorded_query, hanswer]
    rfl
  cases answer with
  | error f =>
    have hcalls : e.pageCalls now q s = [.query (q.pageRequest e.mandatory) (.error f)] := by
      simp [pageCalls, executeQuery, hempty, hrecorded]
    have hresult : (e.executeQuery now q s).1 = .ofFailure f := by
      simp [executeQuery, hempty, hanswer]
    rw [hcalls, hresult]
    exact .failed htable
  | ok response =>
    cases hfail : response.failure? with
    | some text =>
      have hcalls : e.pageCalls now q s =
          [.query (q.pageRequest e.mandatory) (.ok response)] := by
        simp [pageCalls, executeQuery, hempty, hrecorded, hfail]
      have hresult : (e.executeQuery now q s).1 = { error := some text } := by
        simp [executeQuery, hempty, hanswer, hfail]
      rw [hcalls, hresult]
      exact .refused htable hfail
    | none =>
      obtain ⟨lookups, outcome, s', hresolves, hrun, hrows⟩ := e.rows_recorded now q.table
        response.rows { s with source := state }
        [.query (q.pageRequest e.mandatory) (.ok response)]
      have hcalls : e.pageCalls now q s =
          .query (q.pageRequest e.mandatory) (.ok response) :: lookups := by
        cases outcome <;> simp [pageCalls, executeQuery, hempty, hrecorded, hfail, hrows]
      have hresult : (e.executeQuery now q s).1 = reported
          (outcome.map fun found => { rows := found, count := response.count.getD 0 }) := by
        cases outcome <;> simp [executeQuery, hempty, hanswer, hfail, hrun, reported, Except.map]
      rw [hcalls, hresult]
      refine .resolved htable hfail ?_
      rwa [hanswer]

/-- What a page gives, told by its calls. -/
structure PageClassified (e : Engine σ) (now : Rat) (q : QueryState) (s : Session σ)
    (calls : List Exchange) (result : QueryResult) : Prop where
  /-- Without a table nothing is asked. -/
  untouched : q.table = "" → calls = [] ∧ result = { rows := [], count := 0, error := none }
  /-- With a table there is one request, and what else is asked are labels. -/
  asks : q.table ≠ "" → ∃ answer lookups,
    calls = .query (q.pageRequest e.mandatory) answer :: lookups ∧ ∀ x ∈ lookups, x.IsLookup
  /-- A failure that is not passed over is all that is reported. -/
  failed : ∀ f, fatal? calls = some f → result =
    { rows := [], count := 0, error := some (if f.text = "" then "Unknown error" else f.text) }
  /-- So is the error of the answer. -/
  refused : ∀ request response text, calls.head? = some (.query request (.ok response)) →
    response.failure? = some text → result = { rows := [], count := 0, error := some text }
  /-- Otherwise the rows of the answer are resolved, each of them. -/
  answered : ∀ request response, calls.head? = some (.query request (.ok response)) →
    response.failure? = none → fatal? calls = none →
    ∃ steps, result = { rows := response.rows.map (Resolve.substituteAll steps),
                        count := response.count.getD 0, error := none } ∧
      (Resolve.rows e.source e.lookups now response.rows q.table
        { s with source := (e.source.query (q.pageRequest e.mandatory) s.source).2 }).1 =
        .ok result.rows
  /-- No error is empty. -/
  error_ne : ∀ text, result.error = some text → text ≠ ""

theorem PageTrace.classified {e : Engine σ} {now : Rat} {q : QueryState} {s : Session σ}
    {calls : List Exchange} {result : QueryResult} (h : e.PageTrace now q s calls result) :
    e.PageClassified now q s calls result := by
  cases h with
  | untouched htable =>
    exact ⟨fun _ => ⟨rfl, rfl⟩, fun hsome => absurd htable hsome, by rintro _ ⟨⟩,
      by rintro _ _ _ ⟨⟩, by rintro _ _ ⟨⟩, by rintro _ ⟨⟩⟩
  | @failed f htable =>
    refine ⟨fun hnone => absurd hnone htable, fun _ => ⟨_, [], rfl, by simp⟩, ?_,
      by rintro _ _ _ ⟨⟩, by rintro _ _ ⟨⟩, fun _ => error_ofFailure_ne⟩
    rintro _ ⟨⟩
    exact ofFailure_eq f
  | @refused response text htable hfail =>
    refine ⟨fun hnone => absurd hnone htable, fun _ => ⟨_, [], rfl, by simp⟩, by rintro _ ⟨⟩,
      ?_, ?_, ?_⟩
    · rintro _ _ _ ⟨⟩ hfail'
      cases hfail.symm.trans hfail'
      rfl
    · rintro _ _ ⟨⟩ hok
      cases hfail.symm.trans hok
    · rintro _ ⟨⟩
      exact text_ne_empty_of_failure hfail
  | @resolved response lookups outcome htable hok hresolves =>
    obtain ⟨hrows, hlookups, houtcome⟩ := hresolves
    refine ⟨fun hnone => absurd hnone htable, fun _ => ⟨_, lookups, rfl, hlookups⟩, ?_, ?_, ?_, ?_⟩
    · intro f hf
      rw [show fatal? lookups = some f from hf] at houtcome
      rw [houtcome]
      exact ofFailure_eq f
    · rintro _ _ _ ⟨⟩ hfail
      cases hok.symm.trans hfail
    · rintro _ _ ⟨⟩ _ hnone
      rw [show fatal? lookups = none from hnone] at houtcome
      obtain ⟨steps, rfl⟩ := houtcome
      exact ⟨steps, rfl, hrows⟩
    · intro text herror
      cases outcome with
      | error f => exact error_ofFailure_ne herror
      | ok found => cases herror

/-! ## Exports -/

/-- The ways an export goes: its calls and its result. -/
inductive ExportTrace (e : Engine σ) (now : Rat) (q : QueryState) (s : Session σ) :
    List Exchange → QueryResult → Prop
  /-- There is no table. -/
  | untouched : q.table = "" → ExportTrace e now q s [] {}
  /-- The last call of the sweep fails. -/
  | failed {calls : List Exchange} {f : Failure} : q.table ≠ "" →
      calls = Sweep.calls e.source e.mandatory {} q s.source → Sweep.endingOf calls = .failed f →
      ExportTrace e now q s calls (.ofFailure f)
  /-- The last answer of the sweep is an error, and the rows before it are kept. -/
  | kept {calls : List Exchange} {text : String} : q.table ≠ "" →
      calls = Sweep.calls e.source e.mandatory {} q s.source → Sweep.endingOf calls = .error text →
      ExportTrace e now q s calls
        { rows := (Sweep.pages calls).flatten, count := (Sweep.pages calls).flatten.length,
          error := some text }
  /-- The sweep is complete, and its rows are resolved. -/
  | resolved {calls lookups : List Exchange} {state : σ} {outcome : Except Failure (List Row)} :
      q.table ≠ "" → calls = Sweep.calls e.source e.mandatory {} q s.source →
      Sweep.endingOf calls = .complete →
      e.Resolves now q.table (Sweep.pages calls).flatten { s with source := state } lookups
        outcome →
      ExportTrace e now q s (calls ++ lookups)
        (reported (outcome.map fun found => { rows := found, count := found.length }))

/-- **Every export follows a trace.** -/
theorem export_trace (e : Engine σ) (now : Rat) (q : QueryState) (s : Session σ) :
    e.ExportTrace now q s (e.exportCalls now q s) (e.fetchAllForExport now q s).1 := by
  by_cases htable : q.table = ""
  · have hcalls : e.exportCalls now q s = [] := by simp [exportCalls, fetchAllForExport, htable]
    have hresult : (e.fetchAllForExport now q s).1 = {} := by simp [fetchAllForExport, htable]
    rw [hcalls, hresult]
    exact .untouched htable
  have hempty : q.table.isEmpty = false := by simpa using htable
  have htrace := (Sweep.ofState_trace e.source e.mandatory {} (by decide) (by decide) q s.source).2
  have hpages := htrace.rows_eq
  have hending := htrace.ending_eq
  rw [List.nil_append] at hpages
  have hrecorded : Sweep.ofState e.recorded.source.query e.recorded.mandatory {} q (s.source, []) =
      _ := Sweep.ofState_recorded e.source e.mandatory {} (by decide) (by decide) q s.source
  rcases hswept : Sweep.ofState e.source.query e.mandatory {} q s.source with ⟨report, state⟩
  rw [hswept] at hrecorded hpages hending
  dsimp only at hrecorded hpages hending
  have hconcluded : (e.fetchAllForExport now q s).1 =
      reported (e.conclude now q s.cache (report, state)) := by
    rw [e.fetchAllForExport_outcome now htable s, e.sweep_outcome, hswept]
  unfold conclude at hconcluded
  dsimp only at hconcluded
  rw [hconcluded]
  cases hend : report.ending with
  | failed f =>
    have hcalls : e.exportCalls now q s = Sweep.calls e.source e.mandatory {} q s.source := by
      simp [exportCalls, fetchAllForExport, hempty, sweep, hrecorded, hend]
    rw [hcalls]
    exact .failed htable rfl (hending.symm.trans hend)
  | error text =>
    have hcalls : e.exportCalls now q s = Sweep.calls e.source e.mandatory {} q s.source := by
      simp [exportCalls, fetchAllForExport, hempty, sweep, hrecorded, hend]
    rw [hcalls]
    dsimp only
    rw [hpages]
    exact .kept htable rfl (hending.symm.trans hend)
  | complete =>
    obtain ⟨lookups, outcome, s', hresolves, hrun, hrows⟩ := e.rows_recorded now q.table
      report.rows { s with source := state } (Sweep.calls e.source e.mandatory {} q s.source)
    have hcalls : e.exportCalls now q s =
        Sweep.calls e.source e.mandatory {} q s.source ++ lookups := by
      cases outcome <;>
        simp [exportCalls, fetchAllForExport, hempty, sweep, hrecorded, hend, hrows]
    dsimp only
    rw [hcalls, hrun]
    rw [hpages] at hresolves
    exact .resolved htable rfl (hending.symm.trans hend) hresolves

/-- What an export gives, told by its calls. -/
structure ExportClassified (e : Engine σ) (q : QueryState) (s : Session σ)
    (calls : List Exchange) (result : QueryResult) : Prop where
  /-- Without a table nothing is asked. -/
  untouched : q.table = "" → calls = [] ∧ result = { rows := [], count := 0, error := none }
  /-- With a table there is one sweep, and what else is asked are labels. -/
  asks : q.table ≠ "" → ∃ lookups,
    calls = Sweep.calls e.source e.mandatory {} q s.source ++ lookups ∧ ∀ x ∈ lookups, x.IsLookup
  /-- The count is the number of rows. -/
  count_eq : result.count = result.rows.length
  /-- A failure that is not passed over is all that is reported. -/
  failed : ∀ f, fatal? calls = some f → result =
    { rows := [], count := 0, error := some (if f.text = "" then "Unknown error" else f.text) }
  /-- An answer that is an error comes last, and the rows of the pages before it are kept. -/
  refused : ∀ request response text, calls.getLast? = some (.query request (.ok response)) →
    response.failure? = some text →
    result = { rows := (Sweep.pages calls).flatten, count := (Sweep.pages calls).flatten.length,
               error := some text }
  /-- Otherwise the rows of all pages are resolved, each of them. -/
  completed : fatal? calls = none →
    (∀ request response, calls.getLast? = some (.query request (.ok response)) →
      response.failure? = none) →
    ∃ steps, result = { rows := (Sweep.pages calls).flatten.map (Resolve.substituteAll steps),
                        count := (Sweep.pages calls).flatten.length, error := none }
  /-- No error is empty. -/
  error_ne : ∀ text, result.error = some text → text ≠ ""

theorem ExportTrace.classified {e : Engine σ} {now : Rat} {q : QueryState} {s : Session σ}
    {calls : List Exchange} {result : QueryResult} (h : e.ExportTrace now q s calls result) :
    e.ExportClassified q s calls result := by
  have hfatal : fatal? (Sweep.calls e.source e.mandatory {} q s.source) =
      match Sweep.endingOf (Sweep.calls e.source e.mandatory {} q s.source) with
      | .failed f => some f
      | _ => none := by
    have htrace :=
      (Sweep.ofState_trace e.source e.mandatory {} (by decide) (by decide) q s.source).2
    rw [← htrace.ending_eq]
    exact htrace.fatal?_eq
  cases h with
  | untouched htable =>
    exact ⟨fun _ => ⟨rfl, rfl⟩, fun hsome => absurd htable hsome, rfl, by rintro _ ⟨⟩,
      by rintro _ _ _ ⟨⟩, fun _ _ => ⟨[], rfl⟩, by rintro _ ⟨⟩⟩
  | @failed _ f htable hcalls hending =>
    subst hcalls
    rw [hending] at hfatal
    refine ⟨fun hnone => absurd hnone htable, fun _ => ⟨[], (List.append_nil _).symm, by simp⟩,
      rfl, ?_, ?_, ?_, fun _ => error_ofFailure_ne⟩
    · intro g hg
      cases hfatal.symm.trans hg
      exact ofFailure_eq f
    · intro request response text hlast hfail
      have herror := Sweep.endingOf_eq_error.2 ⟨request, response, hlast, hfail⟩
      cases hending.symm.trans herror
    · intro hnone
      cases hfatal.symm.trans hnone
  | @kept _ text htable hcalls hending =>
    subst hcalls
    rw [hending] at hfatal
    obtain ⟨request, response, hlast, hfail⟩ := Sweep.endingOf_eq_error.1 hending
    refine ⟨fun hnone => absurd hnone htable, fun _ => ⟨[], (List.append_nil _).symm, by simp⟩,
      rfl, ?_, ?_, ?_, ?_⟩
    · intro g hg
      cases hfatal.symm.trans hg
    · intro request' response' text' hlast' hfail'
      have herror := Sweep.endingOf_eq_error.2 ⟨request', response', hlast', hfail'⟩
      cases hending.symm.trans herror
      rfl
    · intro _ hok
      cases hfail.symm.trans (hok request response hlast)
    · rintro _ ⟨⟩
      exact text_ne_empty_of_failure hfail
  | @resolved calls lookups state outcome htable hcalls hending hresolves =>
    obtain ⟨-, hlookups, houtcome⟩ := hresolves
    subst hcalls
    rw [hending] at hfatal
    have hpages : Sweep.pages (Sweep.calls e.source e.mandatory {} q s.source ++ lookups) =
        Sweep.pages (Sweep.calls e.source e.mandatory {} q s.source) := by
      have hnone := pages_of_lookups hlookups
      unfold Sweep.pages at hnone ⊢
      rw [List.filterMap_append, hnone, List.append_nil]
    have hfatal' : fatal? (Sweep.calls e.source e.mandatory {} q s.source ++ lookups) =
        fatal? lookups := by
      rw [fatal?_append, hfatal, Option.none_or]
    refine ⟨fun hnone => absurd hnone htable, fun _ => ⟨lookups, rfl, hlookups⟩, ?_, ?_, ?_, ?_, ?_⟩
    · cases outcome <;> rfl
    · intro f hf
      rw [← hfatal', hf] at houtcome
      rw [houtcome]
      exact ofFailure_eq f
    · intro request response text hlast hfail
      -- The last call is a lookup, or else the last of the sweep, which is complete.
      by_cases hnil : lookups = []
      · rw [hnil, List.append_nil] at hlast
        have herror := Sweep.endingOf_eq_error.2 ⟨request, response, hlast, hfail⟩
        cases hending.symm.trans herror
      · rw [List.getLast?_append_of_ne_nil _ hnil] at hlast
        obtain ⟨_, _, hquery⟩ := hlookups _ (List.mem_of_getLast? hlast)
        cases hquery
    · intro hnone _
      rw [← hfatal', hnone] at houtcome
      obtain ⟨steps, rfl⟩ := houtcome
      refine ⟨steps, ?_⟩
      rw [hpages]
      show ({ rows := _, count := (List.length (List.map _ _) : Nat) } : QueryResult) = _
      rw [List.length_map]
    · intro text herror
      cases outcome with
      | error f => exact error_ofFailure_ne herror
      | ok found => cases herror

/-! ## The engine -/

/-- **Every result is told by its calls**, for a page and for an export, over any source and from
any cache. -/
theorem outcomes_classified (e : Engine σ) (now : Rat) (q : QueryState) (s : Session σ) :
    e.PageClassified now q s (e.pageCalls now q s) (e.executeQuery now q s).1 ∧
      e.ExportClassified q s (e.exportCalls now q s) (e.fetchAllForExport now q s).1 :=
  ⟨(e.page_trace now q s).classified, (e.export_trace now q s).classified⟩

end Engine

end TableExplorer
