import TableExplorer.ExportFile
import TableExplorer.Proofs.Engine.Alike
import TableExplorer.Proofs.Engine.ChoiceLists

/-!
# What an engine leaves as it is

The engine touches its source by the four calls and its cache by storing and expiry. So what the
calls keep of the state of a source is kept by everything that the engine does, and the time to live
is never changed.

A source compared with itself is alike, which gives this for sweeps and for resolutions.
-/

namespace TableExplorer

variable {σ : Type} {ds : DataSource σ} {P : σ → Prop} {timeToLive : Option Rat} {s : Session σ}

/-- The calls of a source keep a property of its state. -/
structure DataSource.Keeps (ds : DataSource σ) (P : σ → Prop) : Prop where
  query : ∀ r a, P a → P (ds.query r a).2
  describe : ∀ table a, P a → P (ds.describe table a).2
  lookup : ∀ r a, P a → P (ds.lookup r a).2
  listTables : ∀ a, P a → P (ds.listTables a).2

/-- A session over a state with a property, with this time to live. -/
def Session.Holds (P : σ → Prop) (timeToLive : Option Rat) (s : Session σ) : Prop :=
  P s.source ∧ s.cache.timeToLive = timeToLive

theorem Sweep.keeps_run {query : Request → σ → Except Failure Response × σ}
    (hquery : ∀ r a, P a → P (query r a).2) (compile : Int → Int → Request)
    (limits : SweepLimits) (patience : Nat) (pageSize offset : Int) (rows : List Row) {a : σ}
    (ha : P a) : P (Sweep.run query compile limits patience pageSize offset rows a).2 := by
  -- Only the queries of a source matter to a sweep.
  let ds : DataSource σ :=
    { query, describe := fun _ a => (.ok [], a), lookup := fun _ a => (.ok [], a)
      listTables := fun a => (.ok [], a) }
  have hself : ∀ start limit a b, a = b ∧ P a →
      Agree (fun a b => a = b ∧ P a) (ds.query (compile start limit) a)
        (ds.query (compile start limit) b) := by
    rintro start limit a _ ⟨rfl, ha⟩
    exact ⟨rfl, rfl, hquery _ _ ha⟩
  exact (run_agree hself limits patience pageSize offset rows a a ⟨rfl, ha⟩).2.2

/-! ## Queries -/

namespace Session.Holds

theorem rows (h : s.Holds P timeToLive) (hds : ds.Keeps P) (lookups : Registry.Lookups)
    (now : Rat) (found : List Row) (table : String) :
    (Resolve.rows ds lookups now found table s).2.Holds P timeToLive := by
  obtain ⟨hP, httl⟩ := h
  obtain ⟨-, htrace⟩ := Resolve.rows_trace ds lookups now found table s
  refine ⟨?_, htrace.choiceLists.1.trans httl⟩
  have hself : ∀ p ∈ Resolve.mappedColumns lookups table found, ∀ ids a b, a = b ∧ P a →
      Agree (fun a b => a = b ∧ P a) (ds.lookup (Resolve.request p.2 ids) a)
        (ds.lookup (Resolve.request p.2 ids) b) := by
    rintro p _ ids a _ ⟨rfl, ha⟩
    exact ⟨rfl, rfl, hds.lookup _ _ ha⟩
  rw [Resolve.rows_eq]
  exact (columns_agree now hself found (s := s) ⟨⟨rfl, hP⟩, rfl⟩).2.1.2

variable {e : Engine σ}

theorem executeQuery (h : s.Holds P timeToLive) (he : e.source.Keeps P) (now : Rat)
    (q : QueryState) : (e.executeQuery now q s).2.Holds P timeToLive := by
  unfold Engine.executeQuery
  split
  · exact h
  have hasked := he.query (q.pageRequest e.mandatory) s.source h.1
  generalize e.source.query (q.pageRequest e.mandatory) s.source = answered at hasked ⊢
  obtain ⟨f | response, state⟩ := answered
  · exact ⟨hasked, h.2⟩
  dsimp only
  split
  · exact ⟨hasked, h.2⟩
  have hrows := Session.Holds.rows (s := { s with source := state }) ⟨hasked, h.2⟩ he e.lookups now
    response.rows q.table
  generalize Resolve.rows e.source e.lookups now response.rows q.table { s with source := state } =
    resolved at hrows ⊢
  obtain ⟨f | rows, s'⟩ := resolved <;> exact hrows

theorem sweep (h : s.Holds P timeToLive) (he : e.source.Keeps P) (limits : SweepLimits)
    (now : Rat) (q : QueryState) : (e.sweep limits now q s).2.Holds P timeToLive := by
  unfold Engine.sweep
  have hswept : P (Sweep.ofState e.source.query e.mandatory limits q s.source).2 :=
    Sweep.keeps_run he.query _ _ _ _ _ _ h.1
  generalize Sweep.ofState e.source.query e.mandatory limits q s.source = swept at hswept ⊢
  obtain ⟨report, state⟩ := swept
  dsimp only
  split
  · exact ⟨hswept, h.2⟩
  · exact ⟨hswept, h.2⟩
  have hrows := Session.Holds.rows (s := { s with source := state }) ⟨hswept, h.2⟩ he e.lookups now
    report.rows q.table
  generalize Resolve.rows e.source e.lookups now report.rows q.table { s with source := state } =
    resolved at hrows ⊢
  obtain ⟨f | rows, s'⟩ := resolved <;> exact hrows

theorem fetchAllForExport (h : s.Holds P timeToLive) (he : e.source.Keeps P) (now : Rat)
    (q : QueryState) : (e.fetchAllForExport now q s).2.Holds P timeToLive := by
  unfold Engine.fetchAllForExport
  split
  · exact h
  have hswept := h.sweep he {} now q
  generalize e.sweep {} now q s = swept at hswept ⊢
  obtain ⟨⟨f | result, progress⟩, s'⟩ := swept <;> exact hswept

theorem exportFile (h : s.Holds P timeToLive) (he : e.source.Keeps P) (now : Rat)
    (today : String) (q : QueryState) (format : ExportFormat) :
    (e.exportFile now today q format s).2.Holds P timeToLive := by
  unfold Engine.exportFile
  dsimp only
  split <;> exact h.fetchAllForExport he now q

/-! ## Descriptions and choice lists -/

theorem tableColumns (h : s.Holds P timeToLive) (he : e.source.Keeps P) (table : String) :
    (e.tableColumns table s).2.Holds P timeToLive := by
  unfold Engine.tableColumns Engine.fetchColumns
  have hasked := he.describe table s.source h.1
  generalize e.source.describe table s.source = answered at hasked ⊢
  obtain ⟨f | columns, state⟩ := answered <;> exact ⟨hasked, h.2⟩

theorem groupedTables (h : s.Holds P timeToLive) (he : e.source.Keeps P) :
    (e.groupedTables s).2.Holds P timeToLive := by
  unfold Engine.groupedTables Engine.listTables
  have hasked := he.listTables s.source h.1
  generalize e.source.listTables s.source = answered at hasked ⊢
  obtain ⟨f | tables, state⟩ := answered <;> exact ⟨hasked, h.2⟩

theorem fetchOptions (h : s.Holds P timeToLive) (he : e.source.Keeps P) (now : Rat)
    (table column : String) : (e.fetchOptions now table column s).2.Holds P timeToLive := by
  unfold Engine.fetchOptions
  have hread : (s.cache.getOptions now (Engine.optionsKey table column)).2.timeToLive =
      timeToLive := (LookupCache.timeToLive_getOptions _ _ _).trans h.2
  generalize s.cache.getOptions now (Engine.optionsKey table column) = read at hread ⊢
  obtain ⟨cached | options, cache⟩ := read
  case some => exact ⟨h.1, hread⟩
  dsimp only
  split
  · exact ⟨h.1, hread⟩
  next source _ =>
    have hasked := he.lookup (Engine.fullRequest source) s.source h.1
    unfold Engine.fullRequest at hasked
    generalize e.source.lookup _ s.source = answered at hasked ⊢
    obtain ⟨f | rows, state⟩ := answered <;> exact ⟨hasked, hread⟩

end Session.Holds

end TableExplorer
