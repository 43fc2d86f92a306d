import TableExplorer.Proofs.Engine.Outcome
import TableExplorer.Proofs.Sweep.Trace

/-!
# Sources that cannot be told apart

The engine knows a source by its answers alone. Two sources in states that answer every call of a
query alike, and go on to states that do, give the same results, from the same cache, and have the
same calls recorded.

The calls of a query are few: its request, for windows of its choice, and lookups of labels for the
mapped columns of its table. Only these need to be answered alike (`AlikeFor`).

Main results: `AlikeFor.results_eq` and `AlikeFor.calls_eq`.
-/

namespace TableExplorer

variable {σ τ : Type}

/-- Two runs give the same, and leave related states behind. -/
def Agree {α : Type} (R : σ → τ → Prop) (x : α × σ) (y : α × τ) : Prop := x.1 = y.1 ∧ R x.2 y.2

/-- Sessions with the same cache over related states. -/
def AlikeSessions (R : σ → τ → Prop) (s : Session σ) (t : Session τ) : Prop :=
  R s.source t.source ∧ s.cache = t.cache

/-- Related states answer the calls of a query alike, and are related afterwards. -/
structure AlikeFor (ds : DataSource σ) (ds' : DataSource τ) (mandatory : Registry.MandatoryFilters)
    (lookups : Registry.Lookups) (q : QueryState) (R : σ → τ → Prop) : Prop where
  windows : ∀ start limit countExact a b, R a b →
    Agree R (ds.query { q.exportRequest mandatory start limit with countExact } a)
      (ds'.query { q.exportRequest mandatory start limit with countExact } b)
  labels : ∀ p ∈ lookups.ofTable q.table, ∀ ids a b, R a b →
    Agree R (ds.lookup (Resolve.request p.2 ids) a) (ds'.lookup (Resolve.request p.2 ids) b)

variable {ds : DataSource σ} {ds' : DataSource τ} {mandatory : Registry.MandatoryFilters}
  {lookups : Registry.Lookups} {q : QueryState} {R : σ → τ → Prop}

/-! ## Sweeps -/

theorem Agree.eq_of_run {α : Type} {x : α × σ} {y : α × τ} {a : α} {b : σ} (h : Agree R x y)
    (hx : x = (a, b)) : ∃ b', y = (a, b') ∧ R b b' := by
  obtain ⟨hsame, hR⟩ := h
  rw [hx] at hsame hR
  exact ⟨y.2, Prod.ext hsame.symm rfl, hR⟩

theorem run_agree {compile : Int → Int → Request}
    (hquery : ∀ start limit a b, R a b →
      Agree R (ds.query (compile start limit) a) (ds'.query (compile start limit) b))
    (limits : SweepLimits) (patience : Nat) (pageSize offset : Int) (rows : List Row) (a : σ)
    (b : τ) (hR : R a b) :
    Agree R (Sweep.run ds.query compile limits patience pageSize offset rows a)
      (Sweep.run ds'.query compile limits patience pageSize offset rows b) := by
  fun_induction Sweep.run ds.query compile limits patience pageSize offset rows a generalizing b
    with
  | case1 patience pageSize offset rows a hcap limit request f a' hq =>
    obtain ⟨b', hb, hR'⟩ := (hquery offset limit a b hR).eq_of_run hq
    rw [Sweep.run]
    simpa [hcap, hb, request, limit, Agree] using hR'
  | case2 patience pageSize offset rows a hcap limit request response a' hq text hfail htime hsmall
      report a'' hrest ih =>
    obtain ⟨b', hb, hR'⟩ := (hquery offset limit a b hR).eq_of_run hq
    obtain ⟨b'', hb', hR''⟩ := (ih b' hR').eq_of_run hrest
    simp only [Bool.and_eq_true, decide_eq_true_eq] at htime
    rw [Sweep.run]
    simpa [hcap, hb, hfail, htime, hsmall, hb', request, limit, Agree] using hR''
  | case3 patience pageSize offset rows a hcap limit request response a' hq text hfail htime hsmall
      hpatient report a'' hrest ih =>
    obtain ⟨b', hb, hR'⟩ := (hquery offset limit a b hR).eq_of_run hq
    obtain ⟨b'', hb', hR''⟩ := (ih b' hR').eq_of_run hrest
    simp only [Bool.and_eq_true, decide_eq_true_eq] at htime
    rw [Sweep.run]
    simpa [hcap, hb, hfail, htime, hsmall, hpatient, hb', request, limit, Agree] using hR''
  | case4 patience pageSize offset rows a hcap limit request response a' hq text hfail htime hsmall
      hpatient =>
    obtain ⟨b', hb, hR'⟩ := (hquery offset limit a b hR).eq_of_run hq
    simp only [Bool.and_eq_true, decide_eq_true_eq] at htime
    rw [Sweep.run]
    simpa [hcap, hb, hfail, htime, hsmall, hpatient, request, limit, Agree] using hR'
  | case5 patience pageSize offset rows a hcap limit request response a' hq text hfail htime =>
    obtain ⟨b', hb, hR'⟩ := (hquery offset limit a b hR).eq_of_run hq
    rw [Sweep.run]
    simpa [hcap, hb, hfail, htime, request, limit, Agree] using hR'
  | case6 patience pageSize offset rows a hcap limit request response a' hq hok hnone =>
    obtain ⟨b', hb, hR'⟩ := (hquery offset limit a b hR).eq_of_run hq
    rw [Sweep.run]
    simpa [hcap, hb, hok, hnone, request, limit, Agree] using hR'
  | case7 patience pageSize offset rows a hcap limit request response a' hq hok hsome gathered
      hshort =>
    obtain ⟨b', hb, hR'⟩ := (hquery offset limit a b hR).eq_of_run hq
    rw [Sweep.run]
    simpa [hcap, hb, hok, hsome, hshort, request, limit, gathered, Agree] using hR'
  | case8 patience pageSize offset rows a hcap limit request response a' hq hok hsome gathered
      hfull hpos report a'' hrest ih =>
    obtain ⟨b', hb, hR'⟩ := (hquery offset limit a b hR).eq_of_run hq
    obtain ⟨b'', hb', hR''⟩ := (ih b' hR').eq_of_run hrest
    rw [Sweep.run]
    simpa [hcap, hb, hok, hsome, hfull, hpos, hb', request, limit, gathered, Agree] using hR''
  | case9 patience pageSize offset rows a hcap limit request response a' hq hok hsome gathered
      hfull hzero hpatient report a'' hrest ih =>
    obtain ⟨b', hb, hR'⟩ := (hquery offset limit a b hR).eq_of_run hq
    obtain ⟨b'', hb', hR''⟩ := (ih b' hR').eq_of_run hrest
    rw [Sweep.run]
    simpa [hcap, hb, hok, hsome, hfull, hzero, hpatient, hb', request, limit, gathered, Agree]
      using hR''
  | case10 patience pageSize offset rows a hcap limit request response a' hq hok hsome gathered
      hfull hzero hpatient =>
    obtain ⟨b', hb, hR'⟩ := (hquery offset limit a b hR).eq_of_run hq
    rw [Sweep.run]
    simpa [hcap, hb, hok, hsome, hfull, hzero, hpatient, request, limit, gathered, Agree] using hR'
  | case11 patience pageSize offset rows a hcap =>
    rw [Sweep.run]
    simpa [hcap, Agree] using hR

/-! ## Resolutions -/

theorem column_agree (now : Rat) (name : String) {source : Registry.LookupSource}
    (hlabels : ∀ ids a b, R a b → Agree R (ds.lookup (Resolve.request source ids) a)
      (ds'.lookup (Resolve.request source ids) b))
    (rows : List Row) {s : Session σ} {t : Session τ} (h : AlikeSessions R s t) :
    Agree (AlikeSessions R) (Resolve.column ds now name source rows s)
      (Resolve.column ds' now name source rows t) := by
  obtain ⟨hR, hcache⟩ := h
  unfold Resolve.column
  rw [← hcache]
  extract_lets ids
  by_cases hids : ids.isEmpty
  · simpa [hids, Agree, AlikeSessions] using ⟨hR, hcache⟩
  rcases Resolve.pending now source ids s.cache with ⟨missing, cache⟩
  by_cases hmissing : missing.isEmpty
  · simpa [hids, hmissing, Agree, AlikeSessions] using hR
  rcases hs : ds.lookup (Resolve.request source missing) s.source with ⟨answer, state⟩
  obtain ⟨state', ht, hR'⟩ := (hlabels missing _ _ hR).eq_of_run hs
  cases answer with
  | ok fetched => simpa [hids, hmissing, hs, ht, Agree, AlikeSessions] using hR'
  | error f =>
    cases hkind : f.kind <;>
      simpa [hids, hmissing, hs, ht, hkind, Agree, AlikeSessions] using hR'

theorem columns_agree (now : Rat) {sources : Dict Registry.LookupSource}
    (hlabels : ∀ p ∈ sources, ∀ ids a b, R a b →
      Agree R (ds.lookup (Resolve.request p.2 ids) a) (ds'.lookup (Resolve.request p.2 ids) b))
    (rows : List Row) {s : Session σ} {t : Session τ} (h : AlikeSessions R s t) :
    Agree (AlikeSessions R) (Resolve.columns ds now sources rows s)
      (Resolve.columns ds' now sources rows t) := by
  induction sources generalizing rows s t with
  | nil => exact ⟨rfl, h⟩
  | cons p rest ih =>
    obtain ⟨name, source⟩ := p
    have hfirst := column_agree now name (hlabels _ List.mem_cons_self) rows h
    rcases hs : Resolve.column ds now name source rows s with ⟨outcome, s'⟩
    obtain ⟨t', ht, h'⟩ := hfirst.eq_of_run hs
    unfold Resolve.columns
    rw [hs, ht]
    cases outcome with
    | error f => exact ⟨rfl, h'⟩
    | ok rows' => exact ih (fun p hp => hlabels p (List.mem_cons_of_mem _ hp)) rows' h'

theorem AlikeFor.rows_agree (halike : AlikeFor ds ds' mandatory lookups q R) (now : Rat)
    (found : List Row) {s : Session σ} {t : Session τ} (h : AlikeSessions R s t) :
    Agree (AlikeSessions R) (Resolve.rows ds lookups now found q.table s)
      (Resolve.rows ds' lookups now found q.table t) := by
  cases found with
  | nil => exact ⟨rfl, h⟩
  | cons first rest =>
    refine columns_agree now (fun p hp => ?_) _ h
    exact halike.labels p (List.mem_filter.1 hp).1

/-! ## Results -/

theorem AlikeFor.page_eq (halike : AlikeFor ds ds' mandatory lookups q R) (now : Rat)
    {s : Session σ} {t : Session τ} (h : AlikeSessions R s t) :
    Engine.concludePage ⟨ds, mandatory, lookups⟩ now q s.cache
        (ds.query (q.pageRequest mandatory) s.source) =
      Engine.concludePage ⟨ds', mandatory, lookups⟩ now q t.cache
        (ds'.query (q.pageRequest mandatory) t.source) := by
  obtain ⟨hR, hcache⟩ := h
  have hasked := halike.windows (q.page * q.pageSize) q.pageSize true _ _ hR
  rcases hs : ds.query (q.pageRequest mandatory) s.source with ⟨answer, a⟩
  obtain ⟨b, ht, hR'⟩ := hasked.eq_of_run hs
  rw [show ds'.query (q.pageRequest mandatory) t.source = (answer, b) from ht]
  unfold Engine.concludePage
  cases answer with
  | error f => rfl
  | ok response =>
    have hresolved := (halike.rows_agree now response.rows (s := { source := a, cache := s.cache })
      (t := { source := b, cache := t.cache }) ⟨hR', hcache⟩).1
    simp only
    rw [hresolved]

theorem AlikeFor.export_eq (halike : AlikeFor ds ds' mandatory lookups q R) (limits : SweepLimits)
    (now : Rat) {s : Session σ} {t : Session τ} (h : AlikeSessions R s t) :
    (Engine.sweep ⟨ds, mandatory, lookups⟩ limits now q s).1.outcome =
      (Engine.sweep ⟨ds', mandatory, lookups⟩ limits now q t).1.outcome := by
  obtain ⟨hR, hcache⟩ := h
  have hswept : Agree R (Sweep.ofState ds.query mandatory limits q s.source)
      (Sweep.ofState ds'.query mandatory limits q t.source) :=
    run_agree (fun start limit => halike.windows start limit false) limits _ _ _ _ _ _ hR
  rw [Engine.sweep_outcome, Engine.sweep_outcome]
  rcases hs : Sweep.ofState ds.query mandatory limits q s.source with ⟨report, a⟩
  obtain ⟨b, ht, hR'⟩ := hswept.eq_of_run hs
  rw [ht]
  unfold Engine.conclude
  have hresolved := (halike.rows_agree now report.rows (s := { source := a, cache := s.cache })
    (t := { source := b, cache := t.cache }) ⟨hR', hcache⟩).1
  simp only
  rw [hresolved]

/-- **Alike sources give the same results**, for a page and for an export. -/
theorem AlikeFor.results_eq (halike : AlikeFor ds ds' mandatory lookups q R) (now : Rat)
    {s : Session σ} {t : Session τ} (h : AlikeSessions R s t) :
    (Engine.executeQuery ⟨ds, mandatory, lookups⟩ now q s).1 =
        (Engine.executeQuery ⟨ds', mandatory, lookups⟩ now q t).1 ∧
      (Engine.fetchAllForExport ⟨ds, mandatory, lookups⟩ now q s).1 =
        (Engine.fetchAllForExport ⟨ds', mandatory, lookups⟩ now q t).1 := by
  by_cases htable : q.table = ""
  · simp [Engine.executeQuery, Engine.fetchAllForExport, htable]
  constructor
  · rw [Engine.executeQuery_outcome _ now htable, Engine.executeQuery_outcome _ now htable,
      halike.page_eq now h]
  · rw [Engine.fetchAllForExport_outcome _ now htable,
      Engine.fetchAllForExport_outcome _ now htable, halike.export_eq {} now h]

/-- **Alike sources are asked the same**, and answer it alike. -/
theorem AlikeFor.calls_eq (halike : AlikeFor ds ds' mandatory lookups q R) (limits : SweepLimits)
    {a : σ} {b : τ} (h : R a b) :
    Sweep.calls ds mandatory limits q a = Sweep.calls ds' mandatory limits q b := by
  have hwindows : ∀ start limit (x : σ × List Exchange) (y : τ × List Exchange),
      R x.1 y.1 ∧ x.2 = y.2 →
      Agree (fun x y => R x.1 y.1 ∧ x.2 = y.2)
        (ds.recorded.query (q.exportRequest mandatory start limit) x)
        (ds'.recorded.query (q.exportRequest mandatory start limit) y) := by
    intro start limit x y ⟨hR, hlog⟩
    have hasked : Agree R (ds.query (q.exportRequest mandatory start limit) x.1)
        (ds'.query (q.exportRequest mandatory start limit) y.1) :=
      halike.windows start limit false x.1 y.1 hR
    refine ⟨hasked.1, hasked.2, ?_⟩
    show x.2 ++ [.query _ (ds.query _ x.1).1] = y.2 ++ [.query _ (ds'.query _ y.1).1]
    rw [hlog, hasked.1]
  exact (run_agree hwindows limits _ _ _ _ (a, []) (b, []) ⟨h, rfl⟩).2.2

end TableExplorer
