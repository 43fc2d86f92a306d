import TableExplorer.Proofs.Exchanges
import TableExplorer.Resolve

/-!
# Traces of resolutions

A resolution goes through the mapped columns that the first row has, and asks the source at most
once for each. `ColumnTrace` lists the ways in which a column can go, one constructor each, and
`Trace` strings them together; both relate the cache and the rows before to the calls, the outcome
and the cache after.

Main result: `rows_trace`, every resolution follows a trace.
-/

namespace TableExplorer.Resolve

variable {σ : Type}

/-! ## The ways a column goes -/

/-- From some rows and a cache, the calls that a column makes, its outcome, and the cache after. -/
inductive ColumnTrace (now : Rat) (name : String) (source : Registry.LookupSource)
    (rows : List Row) (cache : LookupCache) :
    List Exchange → Except Failure (List Row) → LookupCache → Prop
  /-- There is nothing to resolve. -/
  | vacant : distinctIds rows name = [] → ColumnTrace now name source rows cache [] (.ok rows) cache
  /-- Every identifier has a known label. -/
  | known {cleaned : LookupCache} : distinctIds rows name ≠ [] →
      pending now source (distinctIds rows name) cache = ([], cleaned) →
      ColumnTrace now name source rows cache []
        (.ok (absorb now source name rows none cleaned).1)
        (absorb now source name rows none cleaned).2
  /-- The missing labels are found. -/
  | found {missing : List String} {cleaned : LookupCache} {fetched : List Row} :
      distinctIds rows name ≠ [] → missing ≠ [] →
      pending now source (distinctIds rows name) cache = (missing, cleaned) →
      ColumnTrace now name source rows cache [.lookup (request source missing) (.ok fetched)]
        (.ok (absorb now source name rows (some fetched) cleaned).1)
        (absorb now source name rows (some fetched) cleaned).2
  /-- The source fails, which is passed over. -/
  | passed {missing : List String} {cleaned : LookupCache} {f : Failure} :
      distinctIds rows name ≠ [] → missing ≠ [] →
      pending now source (distinctIds rows name) cache = (missing, cleaned) → f.kind = .source →
      ColumnTrace now name source rows cache [.lookup (request source missing) (.error f)]
        (.ok (absorb now source name rows none cleaned).1)
        (absorb now source name rows none cleaned).2
  /-- The call fails in any other way. -/
  | failed {missing : List String} {cleaned : LookupCache} {f : Failure} :
      distinctIds rows name ≠ [] → missing ≠ [] →
      pending now source (distinctIds rows name) cache = (missing, cleaned) → f.kind ≠ .source →
      ColumnTrace now name source rows cache [.lookup (request source missing) (.error f)]
        (.error f) cleaned

theorem column_trace (ds : DataSource σ) (now : Rat) (name : String)
    (source : Registry.LookupSource) (rows : List Row) (s : Session σ) (log : List Exchange) :
    let run := column ds now name source rows s
    ∃ calls : List Exchange,
      column ds.recorded now name source rows { source := (s.source, log), cache := s.cache } =
        (run.1, { source := (run.2.source, log ++ calls), cache := run.2.cache }) ∧
      (∀ x ∈ calls, x.AnsweredBy ds) ∧
      ColumnTrace now name source rows s.cache calls run.1 run.2.cache := by
  intro run
  by_cases hids : distinctIds rows name = []
  · have hrun : run = (.ok rows, s) := by simp [run, column, hids]
    refine ⟨[], ?_, by simp, ?_⟩
    · simp [column, hids, hrun]
    · rw [hrun]
      exact .vacant hids
  rcases hpending : pending now source (distinctIds rows name) s.cache with ⟨missing, cleaned⟩
  have hids' : (distinctIds rows name).isEmpty = false := by simpa using hids
  by_cases hmissing : missing = []
  · subst hmissing
    have hrun : run = (.ok (absorb now source name rows none cleaned).1,
        { s with cache := (absorb now source name rows none cleaned).2 }) := by
      simp [run, column, hids, hpending]
    refine ⟨[], ?_, by simp, ?_⟩
    · simp [column, hids, hpending, hrun]
    · rw [hrun]
      exact .known hids hpending
  have hmissing' : missing.isEmpty = false := by simpa using hmissing
  rcases hanswer : ds.lookup (request source missing) s.source with ⟨answer, state⟩
  have hby : Exchange.AnsweredBy ds (.lookup (request source missing) answer) :=
    ⟨s.source, by rw [hanswer]⟩
  refine ⟨[.lookup (request source missing) answer], ?_, by simpa using hby, ?_⟩
  -- The recorded source gives the same answer, so both runs take the same branch.
  · cases answer with
    | ok fetched => simp [run, column, hids', hpending, hmissing', ds.recorded_lookup, hanswer]
    | error f =>
      cases hkind : f.kind <;>
        simp [run, column, hids', hpending, hmissing', ds.recorded_lookup, hanswer, hkind]
  · cases answer with
    | ok fetched =>
      have hrun : run = (.ok (absorb now source name rows (some fetched) cleaned).1,
          { source := state,
            cache := (absorb now source name rows (some fetched) cleaned).2 }) := by
        simp [run, column, hids', hpending, hmissing', hanswer]
      rw [hrun]
      exact .found hids hmissing hpending
    | error f =>
      by_cases hkind : f.kind = .source
      · have hrun : run = (.ok (absorb now source name rows none cleaned).1,
            { source := state, cache := (absorb now source name rows none cleaned).2 }) := by
          simp [run, column, hids', hpending, hmissing', hanswer, hkind]
        rw [hrun]
        exact .passed hids hmissing hpending hkind
      · have hrun : run = (.error f, { source := state, cache := cleaned }) := by
          simp [run, column, hids', hpending, hmissing', hanswer]
        rw [hrun]
        exact .failed hids hmissing hpending hkind

/-! ## The ways all columns go -/

/-- From some rows and a cache, the calls that all columns make, their outcome, and the cache
after. -/
inductive Trace (now : Rat) : Dict Registry.LookupSource → List Row → LookupCache →
    List Exchange → Except Failure (List Row) → LookupCache → Prop
  /-- No column is left. -/
  | done {rows : List Row} {cache : LookupCache} : Trace now [] rows cache [] (.ok rows) cache
  /-- A column is resolved. -/
  | step {name : String} {source : Registry.LookupSource} {rest : Dict Registry.LookupSource}
      {rows rows' : List Row} {cache cache' cache'' : LookupCache} {calls calls' : List Exchange}
      {outcome : Except Failure (List Row)} :
      ColumnTrace now name source rows cache calls (.ok rows') cache' →
      Trace now rest rows' cache' calls' outcome cache'' →
      Trace now ((name, source) :: rest) rows cache (calls ++ calls') outcome cache''
  /-- A column fails, and the columns after it are left alone. -/
  | failed {name : String} {source : Registry.LookupSource} {rest : Dict Registry.LookupSource}
      {rows : List Row} {cache cache' : LookupCache} {calls : List Exchange} {f : Failure} :
      ColumnTrace now name source rows cache calls (.error f) cache' →
      Trace now ((name, source) :: rest) rows cache calls (.error f) cache'

theorem columns_trace (ds : DataSource σ) (now : Rat) (sources : Dict Registry.LookupSource)
    (rows : List Row) (s : Session σ) (log : List Exchange) :
    let run := columns ds now sources rows s
    ∃ calls : List Exchange,
      columns ds.recorded now sources rows { source := (s.source, log), cache := s.cache } =
        (run.1, { source := (run.2.source, log ++ calls), cache := run.2.cache }) ∧
      (∀ x ∈ calls, x.AnsweredBy ds) ∧
      Trace now sources rows s.cache calls run.1 run.2.cache := by
  induction sources generalizing rows s log with
  | nil => exact ⟨[], by simp [columns], by simp, .done⟩
  | cons p rest ih =>
    obtain ⟨name, source⟩ := p
    obtain ⟨calls, heq, hby, htrace⟩ := column_trace ds now name source rows s log
    rcases hrun : column ds now name source rows s with ⟨outcome, s'⟩
    rw [hrun] at heq htrace
    cases outcome with
    | error f =>
      refine ⟨calls, ?_, hby, ?_⟩
      · simp only [columns, heq, hrun]
      · simp only [columns, hrun]
        exact .failed htrace
    | ok rows' =>
      obtain ⟨calls', heq', hby', htrace'⟩ := ih rows' s' (log ++ calls)
      refine ⟨calls ++ calls', ?_, ?_, ?_⟩
      · simp only [columns, heq, hrun, heq', List.append_assoc]
      · exact fun x hx => (List.mem_append.1 hx).elim (hby x) (hby' x)
      · simp only [columns, hrun]
        exact .step htrace htrace'

/-! ## What a trace asks for -/

theorem ColumnTrace.lookups {now : Rat} {name : String} {source : Registry.LookupSource}
    {found : List Row} {cache cache' : LookupCache} {calls : List Exchange}
    {outcome : Except Failure (List Row)}
    (h : ColumnTrace now name source found cache calls outcome cache') :
    ∀ x ∈ calls, ∃ ids answer, x = .lookup (request source ids) answer := by
  cases h with
  | vacant _ | known _ _ => simp
  | found _ _ _ | passed _ _ _ _ | failed _ _ _ _ =>
    exact fun x hx => ⟨_, _, List.mem_singleton.1 hx⟩

/-- Every call of a trace asks for labels of one of its columns. -/
theorem Trace.lookups {now : Rat} {columns : Dict Registry.LookupSource} {found : List Row}
    {cache cache' : LookupCache} {calls : List Exchange} {outcome : Except Failure (List Row)}
    (h : Trace now columns found cache calls outcome cache') :
    ∀ x ∈ calls, ∃ p ∈ columns, ∃ ids answer, x = .lookup (request p.2 ids) answer := by
  induction h with
  | done => simp
  | step hcolumn _ ih =>
    intro x hx
    rcases List.mem_append.1 hx with hx | hx
    · exact ⟨_, List.mem_cons_self, hcolumn.lookups x hx⟩
    · obtain ⟨p, hp, hasked⟩ := ih x hx
      exact ⟨p, List.mem_cons_of_mem _ hp, hasked⟩
  | failed hcolumn => exact fun x hx => ⟨_, List.mem_cons_self, hcolumn.lookups x hx⟩

/-! ## Every resolution follows a trace -/

/-- The mapped columns of a table that the first row has. -/
def mappedColumns (lookups : Registry.Lookups) (table : String) :
    List Row → Dict Registry.LookupSource
  | [] => []
  | first :: _ => presentColumns (lookups.ofTable table) first

theorem rows_eq (ds : DataSource σ) (lookups : Registry.Lookups) (now : Rat) (found : List Row)
    (table : String) (s : Session σ) :
    rows ds lookups now found table s =
      columns ds now (mappedColumns lookups table found) found s := by
  cases found with
  | nil => rfl
  | cons first rest => rfl

/-- The calls of a resolution, with their answers. -/
def calls (ds : DataSource σ) (lookups : Registry.Lookups) (now : Rat) (found : List Row)
    (table : String) (s : Session σ) : List Exchange :=
  (rows ds.recorded lookups now found table
    { source := (s.source, []), cache := s.cache }).2.source.2

/-- **Every resolution follows a trace.** -/
theorem rows_trace (ds : DataSource σ) (lookups : Registry.Lookups) (now : Rat)
    (found : List Row) (table : String) (s : Session σ) :
    let run := rows ds lookups now found table s
    (∀ x ∈ calls ds lookups now found table s, x.AnsweredBy ds) ∧
      Trace now (mappedColumns lookups table found) found s.cache
        (calls ds lookups now found table s) run.1 run.2.cache := by
  intro run
  obtain ⟨made, heq, hby, htrace⟩ :=
    columns_trace ds now (mappedColumns lookups table found) found s []
  have hcalls : calls ds lookups now found table s = made := by
    rw [calls, rows_eq, heq, List.nil_append]
  rw [hcalls, show run = _ from rows_eq ds lookups now found table s]
  exact ⟨hby, htrace⟩

end TableExplorer.Resolve
