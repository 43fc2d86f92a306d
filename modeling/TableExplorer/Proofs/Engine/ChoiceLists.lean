import Mathlib.Data.List.Basic
import Mathlib.Data.List.Induction
import TableExplorer.Proofs.Engine.Classification
import TableExplorer.Proofs.LookupCache

/-!
# Choice lists over time

An engine is asked for choice lists, resolves rows and has its cache cleared, while the clock goes
on and the source answers or fails as it likes. The calls of every errand are written down, and with
them what a column was told last is known without a look at the cache: the rows of the last load of
its own choice list, unless the cache was cleared after it (`lastLoad`).

A choice list is kept under the table and the column with a dot between them. No table and no column
that has a lookup source contains a dot, so such a key is of one column only; for any other pair of
texts nothing is stored.

`Keeps` relates the cache to what was told, and each errand keeps it. Main result:
`choice_lists_history`.
-/

namespace TableExplorer

variable {σ : Type}

/-! ## Keys -/

/-- No table and no column that has a lookup source has a dot in its name. -/
def Registry.Lookups.DotFree (ls : Lookups) : Prop :=
  ∀ p ∈ ls, '.' ∉ p.1.toList ∧ ∀ q ∈ p.2, '.' ∉ q.1.toList

theorem Registry.dotFree_lookups : Registry.lookups.DotFree := by
  unfold Lookups.DotFree
  decide

theorem Registry.Lookups.DotFree.of_ofColumn? {ls : Lookups} (h : ls.DotFree)
    {table column : String} {source : LookupSource}
    (hsource : ls.ofColumn? table column = some source) :
    '.' ∉ table.toList ∧ '.' ∉ column.toList := by
  unfold ofColumn? ofTable at hsource
  cases htable : Dict.get? ls table with
  | none =>
    rw [htable] at hsource
    cases hsource
  | some columns =>
    rw [htable] at hsource
    have hfree := h _ (Dict.mem_of_get? htable)
    exact ⟨hfree.1, hfree.2 _ (Dict.mem_of_get? hsource)⟩

/-! ## Resolutions leave choice lists alone -/

theorem Resolve.ColumnTrace.choiceLists {now : Rat} {name : String}
    {source : Registry.LookupSource} {found : List Row} {cache cache' : LookupCache}
    {calls : List Exchange} {outcome : Except Failure (List Row)}
    (h : ColumnTrace now name source found cache calls outcome cache') :
    cache'.timeToLive = cache.timeToLive ∧ cache'.options = cache.options := by
  have hpending : ∀ {ids missing cleaned}, pending now source ids cache = (missing, cleaned) →
      cleaned.timeToLive = cache.timeToLive ∧ cleaned.options = cache.options := by
    rintro ids missing _ ⟨⟩
    exact ⟨cache.timeToLive_evictLabels now _, cache.options_evictLabels now _⟩
  have habsorb : ∀ answer (cleaned : LookupCache),
      (absorb now source name found answer cleaned).2.timeToLive = cleaned.timeToLive ∧
        (absorb now source name found answer cleaned).2.options = cleaned.options := by
    rintro (- | fetched) cleaned
    · exact ⟨cleaned.timeToLive_evictLabels now _, cleaned.options_evictLabels now _⟩
    · exact ⟨LookupCache.timeToLive_evictLabels _ now _, LookupCache.options_evictLabels _ now _⟩
  cases h with
  | vacant _ => exact ⟨rfl, rfl⟩
  | known _ h | found _ _ h | passed _ _ h _ =>
    obtain ⟨httl, hoptions⟩ := hpending h
    exact ⟨(habsorb _ _).1.trans httl, (habsorb _ _).2.trans hoptions⟩
  | failed _ _ h _ => exact hpending h

theorem Resolve.Trace.choiceLists {now : Rat} {columns : Dict Registry.LookupSource}
    {found : List Row} {cache cache' : LookupCache} {calls : List Exchange}
    {outcome : Except Failure (List Row)}
    (h : Trace now columns found cache calls outcome cache') :
    cache'.timeToLive = cache.timeToLive ∧ cache'.options = cache.options := by
  induction h with
  | done => exact ⟨rfl, rfl⟩
  | step hcolumn _ ih =>
    exact ⟨ih.1.trans hcolumn.choiceLists.1, ih.2.trans hcolumn.choiceLists.2⟩
  | failed hcolumn => exact hcolumn.choiceLists

namespace Engine

/-- **Keys tell columns apart**, if one of them has no dots. -/
theorem optionsKey_inj {table column table' column' : String} (htable : '.' ∉ table.toList)
    (hcolumn : '.' ∉ column.toList) (h : optionsKey table' column' = optionsKey table column) :
    table' = table ∧ column' = column := by
  have hlist := congrArg String.toList h
  have hdot : ".".toList = ['.'] := by decide
  simp only [optionsKey, String.toList_append, hdot, List.append_assoc, List.singleton_append]
    at hlist
  obtain ⟨hleft, -, hright⟩ := (List.append_cons_inj_of_notMem htable hcolumn).1 hlist.symm
  exact ⟨(String.toList_inj.1 hleft).symm, (String.toList_inj.1 hright).symm⟩

/-! ## The ways a request for a choice list goes -/

/-- The request for all identifiers and labels of a source, in the order of the labels. -/
def fullRequest (source : Registry.LookupSource) : LookupRequest :=
  { table := source.table, idField := source.idField, labelField := source.labelField,
    orderByLabel := true }

/-- From a cache and the answer that the source would give, the calls that a request for a choice
list makes, the list, and the cache after. -/
inductive OptionsTrace (lookups : Registry.Lookups) (now : Rat) (table column : String)
    (cache : LookupCache) (answer : LookupRequest → Except Failure (List Row)) :
    List Exchange → List LookupOption → LookupCache → Prop
  /-- The list is known. -/
  | known {storedAt : Rat} {options : List LookupOption} :
      cache.liveOptions now (optionsKey table column) = some (storedAt, options) →
      OptionsTrace lookups now table column cache answer [] options
        (cache.getOptions now (optionsKey table column)).2
  /-- The column has no choice list. -/
  | unmapped : cache.liveOptions now (optionsKey table column) = none →
      lookups.ofColumn? table column = none →
      OptionsTrace lookups now table column cache answer [] []
        (cache.getOptions now (optionsKey table column)).2
  /-- The list cannot be loaded. -/
  | failed {source : Registry.LookupSource} {f : Failure} :
      cache.liveOptions now (optionsKey table column) = none →
      lookups.ofColumn? table column = some source → answer (fullRequest source) = .error f →
      OptionsTrace lookups now table column cache answer [.lookup (fullRequest source) (.error f)]
        [] (cache.getOptions now (optionsKey table column)).2
  /-- The list is loaded and stored. -/
  | loaded {source : Registry.LookupSource} {rows : List Row} :
      cache.liveOptions now (optionsKey table column) = none →
      lookups.ofColumn? table column = some source → answer (fullRequest source) = .ok rows →
      OptionsTrace lookups now table column cache answer [.lookup (fullRequest source) (.ok rows)]
        (rows.map (optionOf source))
        ((cache.getOptions now (optionsKey table column)).2.setOptions now
          (optionsKey table column) (rows.map (optionOf source)))

/-- The calls of a request for a choice list, with their answers. -/
def optionCalls (e : Engine σ) (now : Rat) (table column : String) (s : Session σ) :
    List Exchange :=
  (e.recorded.fetchOptions now table column
    { source := (s.source, []), cache := s.cache }).2.source.2

/-- Every request for a choice list goes one of these ways. -/
theorem fetchOptions_trace (e : Engine σ) (now : Rat) (table column : String) (s : Session σ) :
    OptionsTrace e.lookups now table column s.cache
      (fun request => (e.source.lookup request s.source).1) (e.optionCalls now table column s)
      (e.fetchOptions now table column s).1 (e.fetchOptions now table column s).2.cache := by
  generalize hdef : e.fetchOptions now table column s = run
  obtain ⟨cached, cleaned, hread⟩ :
      ∃ cached cleaned, s.cache.getOptions now (optionsKey table column) = (cached, cleaned) :=
    ⟨_, _, rfl⟩
  have hcleaned : cleaned = (s.cache.getOptions now (optionsKey table column)).2 := by rw [hread]
  have hcached : cached = (s.cache.liveOptions now (optionsKey table column)).map Prod.snd := by
    rw [LookupCache.getOptions_eq] at hread
    exact (congrArg Prod.fst hread).symm
  cases hlive : s.cache.liveOptions now (optionsKey table column) with
  | some entry =>
    rw [hlive, Option.map_some] at hcached
    have hrun : run = (entry.2, { s with cache := cleaned }) := by
      simp [← hdef, fetchOptions, hread, hcached]
    have hcalls : e.optionCalls now table column s = [] := by
      simp [optionCalls, fetchOptions, hread, hcached]
    rw [hrun, hcalls, hcleaned]
    exact .known hlive
  | none =>
    rw [hlive, Option.map_none] at hcached
    cases hsource : e.lookups.ofColumn? table column with
    | none =>
      have hrun : run = ([], { s with cache := cleaned }) := by
        simp [← hdef, fetchOptions, hread, hcached, hsource]
      have hcalls : e.optionCalls now table column s = [] := by
        simp [optionCalls, fetchOptions, hread, hcached, recorded, hsource]
      rw [hrun, hcalls, hcleaned]
      exact .unmapped hlive hsource
    | some source =>
      obtain ⟨answer, state, hanswer⟩ :
          ∃ answer state, e.source.lookup (fullRequest source) s.source = (answer, state) :=
        ⟨_, _, rfl⟩
      have hasked := hanswer
      rw [fullRequest] at hasked
      have hcalls : e.optionCalls now table column s = [.lookup (fullRequest source) answer] := by
        cases answer <;>
          simp [optionCalls, fetchOptions, hread, hcached, recorded, hsource,
            DataSource.recorded_lookup, fullRequest, hasked]
      cases answer with
      | error f =>
        have hrun : run = ([], { source := state, cache := cleaned }) := by
          simp [← hdef, fetchOptions, hread, hcached, hsource, hasked]
        rw [hrun, hcalls, hcleaned]
        exact .failed hlive hsource (congrArg Prod.fst hanswer)
      | ok rows =>
        have hrun : run = (rows.map (optionOf source),
            { source := state,
              cache := cleaned.setOptions now (optionsKey table column)
                (rows.map (optionOf source)) }) := by
          simp [← hdef, fetchOptions, hread, hcached, hsource, hasked]
        rw [hrun, hcalls, hcleaned]
        exact .loaded hlive hsource (congrArg Prod.fst hanswer)

/-! ## Errands -/

/-- What an engine is asked for. -/
inductive Errand
  | options (table column : String)
  | resolve (table : String) (rows : List Row)
  | clear

/-- The session after an errand. -/
def after (e : Engine σ) (now : Rat) (errand : Errand) (s : Session σ) : Session σ :=
  match errand with
  | .options table column => (e.fetchOptions now table column s).2
  | .resolve table rows => (Resolve.rows e.source e.lookups now rows table s).2
  | .clear => { s with cache := s.cache.clear }

/-- The calls of an errand, with their answers. -/
def errandCalls (e : Engine σ) (now : Rat) (errand : Errand) (s : Session σ) : List Exchange :=
  match errand with
  | .options table column => e.optionCalls now table column s
  | .resolve table rows => Resolve.calls e.source e.lookups now rows table s
  | .clear => []

/-- An errand that was done, with its time and its calls. -/
structure Event where
  time : Rat
  errand : Errand
  calls : List Exchange

/-- The record of an errand. -/
def record (e : Engine σ) (now : Rat) (errand : Errand) (s : Session σ) : Event :=
  { time := now, errand, calls := e.errandCalls now errand s }

/-- Do an errand and write it down. -/
def perform (e : Engine σ) (past : List Event × Session σ) (asked : Rat × Errand) :
    List Event × Session σ :=
  (past.1 ++ [e.record asked.1 asked.2 past.2], e.after asked.1 asked.2 past.2)

def performAll (e : Engine σ) (asked : List (Rat × Errand)) (s : Session σ) :
    List Event × Session σ :=
  asked.foldl e.perform ([], s)

/-! ## What a column was told -/

/-- The rows that a lookup gave. -/
def fetched? : Exchange → Option (List Row)
  | .lookup _ (.ok rows) => some rows
  | _ => none

/-- The last load of the choice list of a column, after one more errand: a load that succeeds takes
the place of the one before, and after the cache is cleared there is none. -/
def nextLoad (table column : String) (load : Option (Rat × List Row)) (x : Event) :
    Option (Rat × List Row) :=
  match x.errand with
  | .options t c =>
    if t = table ∧ c = column then
      ((x.calls.findSome? fetched?).map fun rows => (x.time, rows)).or load
    else load
  | .resolve _ _ => load
  | .clear => none

/-- The last load of the choice list of a column since the cache was cleared: its time and rows. -/
def lastLoad (table column : String) (past : List Event) : Option (Rat × List Row) :=
  past.foldl (nextLoad table column) none

theorem lastLoad_append (table column : String) (past : List Event) (x : Event) :
    lastLoad table column (past ++ [x]) = nextLoad table column (lastLoad table column past) x :=
  List.foldl_append

/-- The choice list that the last load of a column gave, with its time. -/
def lastOptions (lookups : Registry.Lookups) (past : List Event) (table column : String) :
    Option (Rat × List LookupOption) :=
  (lookups.ofColumn? table column).bind fun source =>
    (lastLoad table column past).map fun load => (load.1, load.2.map (optionOf source))

/-! ## The cache holds what was told -/

/-- What is live under the key of any two texts is what was loaded last for this column, as far as
it is recent. -/
structure Keeps (lookups : Registry.Lookups) (timeToLive : Option Rat) (now : Rat)
    (past : List Event) (cache : LookupCache) : Prop where
  timeToLive_eq : cache.timeToLive = timeToLive
  live : ∀ table column, cache.liveOptions now (optionsKey table column) =
    (lastOptions lookups past table column).filter fun p =>
      LookupCache.isRecent timeToLive now p.1

variable {lookups : Registry.Lookups} {timeToLive : Option Rat} {now : Rat} {past : List Event}
  {cache : LookupCache}

theorem keeps_empty (lookups : Registry.Lookups) (timeToLive : Option Rat) (now : Rat) :
    Keeps lookups timeToLive now [] { timeToLive } := by
  constructor
  · rfl
  · intro table column
    unfold lastOptions
    cases lookups.ofColumn? table column <;> rfl

theorem Keeps.later (h : Keeps lookups timeToLive now past cache) {later : Rat}
    (hle : now ≤ later) : Keeps lookups timeToLive later past cache := by
  constructor
  · exact h.timeToLive_eq
  · intro table column
    have hlive := h.live table column
    rw [LookupCache.liveOptions, h.timeToLive_eq] at hlive ⊢
    rw [← LookupCache.filter_isRecent timeToLive hle, hlive,
      LookupCache.filter_isRecent timeToLive hle]

theorem Keeps.congr (h : Keeps lookups timeToLive now past cache) {cache' : LookupCache}
    {past' : List Event} (httl : cache'.timeToLive = cache.timeToLive)
    (hlive : cache'.liveOptions now = cache.liveOptions now)
    (hpast : ∀ table column, lastLoad table column past' = lastLoad table column past) :
    Keeps lookups timeToLive now past' cache' := by
  constructor
  · exact httl.trans h.timeToLive_eq
  · intro table column
    rw [hlive, h.live, lastOptions, lastOptions, hpast]

/-! ## Every errand keeps it -/

/-- A list that was just loaded is kept under the key of its own column. -/
theorem Keeps.loaded (hdots : lookups.DotFree) (h : Keeps lookups timeToLive now past cache)
    {table column : String} {source : Registry.LookupSource}
    (hsource : lookups.ofColumn? table column = some source) (rows : List Row)
    (calls : List Exchange) (hcalls : calls.findSome? fetched? = some rows) :
    Keeps lookups timeToLive now
      (past ++ [{ time := now, errand := .options table column, calls }])
      (cache.setOptions now (optionsKey table column) (rows.map (optionOf source))) := by
  constructor
  · exact h.timeToLive_eq
  · intro t c
    rw [LookupCache.liveOptions_setOptions, lastOptions, lastLoad_append]
    by_cases hkey : optionsKey t c = optionsKey table column
    · -- The same key is the same column, because this one has no dots.
      obtain ⟨hfree, hfree'⟩ := hdots.of_ofColumn? hsource
      obtain ⟨rfl, rfl⟩ := optionsKey_inj hfree hfree' hkey
      rw [if_pos rfl, h.timeToLive_eq, hsource]
      simp [nextLoad, hcalls]
    · have hother : ¬ (table = t ∧ column = c) := by
        rintro ⟨rfl, rfl⟩
        exact hkey rfl
      rw [if_neg hkey, h.live, lastOptions]
      simp [nextLoad, hother]

theorem Keeps.after {e : Engine σ} (hdots : e.lookups.DotFree) {s : Session σ}
    (h : Keeps e.lookups timeToLive now past s.cache) (errand : Errand) :
    Keeps e.lookups timeToLive now (past ++ [e.record now errand s])
      (e.after now errand s).cache := by
  cases errand with
  | clear =>
    constructor
    · exact h.timeToLive_eq
    · intro table column
      rw [lastOptions, lastLoad_append]
      cases e.lookups.ofColumn? table column <;> rfl
  | resolve table rows =>
    have htrace := (Resolve.rows_trace e.source e.lookups now rows table s).2
    obtain ⟨httl, hoptions⟩ := htrace.choiceLists
    apply h.congr httl ?_ fun t c => lastLoad_append t c past _
    funext key
    show (Resolve.rows e.source e.lookups now rows table s).2.cache.liveOptions now key = _
    rw [LookupCache.liveOptions, hoptions, httl, LookupCache.liveOptions]
  | options table column =>
    have htrace := e.fetchOptions_trace now table column s
    have hread : Keeps e.lookups timeToLive now past
        (s.cache.getOptions now (optionsKey table column)).2 := by
      apply h.congr (by simp) ?_ fun _ _ => rfl
      funext key
      simp
    -- Without rows that were fetched, the last load remains the same.
    have hsame : ∀ calls : List Exchange, calls.findSome? fetched? = none → ∀ t c,
        lastLoad t c (past ++ [{ time := now, errand := .options table column, calls }]) =
          lastLoad t c past := by
      intro calls hcalls t c
      rw [lastLoad_append]
      simp [nextLoad, hcalls]
    show Keeps _ _ _ (past ++ [⟨now, .options table column, e.optionCalls now table column s⟩])
      (e.fetchOptions now table column s).2.cache
    generalize e.optionCalls now table column s = calls,
      (e.fetchOptions now table column s).1 = options,
      (e.fetchOptions now table column s).2.cache = cache' at htrace ⊢
    cases htrace with
    | known _ | unmapped _ _ | failed _ _ _ => exact hread.congr rfl rfl (hsame _ rfl)
    | loaded _ hsource _ => exact hread.loaded hdots hsource _ _ rfl

theorem performAll_append (e : Engine σ) (asked : List (Rat × Errand)) (x : Rat × Errand)
    (s : Session σ) : e.performAll (asked ++ [x]) s = e.perform (e.performAll asked s) x :=
  List.foldl_append

/-- **After any errands the cache holds what was told**, as long as the clock does not run
backwards. -/
theorem keeps_performAll {e : Engine σ} (hdots : e.lookups.DotFree) (start : σ)
    (timeToLive : Option Rat) (asked : List (Rat × Errand)) (now : Rat)
    (hclock : (asked.map Prod.fst ++ [now]).Pairwise (· ≤ ·)) :
    let done := e.performAll asked { source := start, cache := { timeToLive } }
    Keeps e.lookups timeToLive now done.1 done.2.cache := by
  induction asked using List.reverseRecOn generalizing now with
  | nil => exact keeps_empty e.lookups timeToLive now
  | append_singleton asked x ih =>
    rw [List.map_append, List.map_singleton, List.pairwise_append] at hclock
    have hle : x.1 ≤ now := hclock.2.2 x.1 (by simp) now (by simp)
    rw [performAll_append]
    exact ((ih x.1 hclock.1).after hdots x.2).later hle

/-! ## Requests for choice lists -/

section

variable {table column : String} {answer : LookupRequest → Except Failure (List Row)}
  {calls : List Exchange} {options : List LookupOption} {cache' : LookupCache}

theorem OptionsTrace.of_live
    (h : OptionsTrace lookups now table column cache answer calls options cache')
    {entry : Rat × List LookupOption}
    (hlive : cache.liveOptions now (optionsKey table column) = some entry) :
    options = entry.2 ∧ calls = [] := by
  cases h with
  | known hknown =>
    cases hlive.symm.trans hknown
    exact ⟨rfl, rfl⟩
  | unmapped hnone _ | failed hnone _ _ | loaded hnone _ _ => cases hlive.symm.trans hnone

theorem OptionsTrace.of_unmapped
    (h : OptionsTrace lookups now table column cache answer calls options cache')
    (hlive : cache.liveOptions now (optionsKey table column) = none)
    (hsource : lookups.ofColumn? table column = none) : options = [] ∧ calls = [] := by
  cases h with
  | known hknown => cases hlive.symm.trans hknown
  | unmapped _ _ => exact ⟨rfl, rfl⟩
  | failed _ hmapped _ | loaded _ hmapped _ => cases hsource.symm.trans hmapped

theorem OptionsTrace.of_mapped
    (h : OptionsTrace lookups now table column cache answer calls options cache')
    (hlive : cache.liveOptions now (optionsKey table column) = none)
    {source : Registry.LookupSource} (hsource : lookups.ofColumn? table column = some source) :
    calls = [.lookup (fullRequest source) (answer (fullRequest source))] ∧
      match answer (fullRequest source) with
      | .ok rows => options = rows.map (optionOf source) ∧
          Dict.get? cache'.options (optionsKey table column) = some (now, options)
      | .error _ => options = [] ∧
          Dict.get? cache'.options (optionsKey table column) = none := by
  cases h with
  | known hknown => cases hlive.symm.trans hknown
  | unmapped _ hunmapped => cases hsource.symm.trans hunmapped
  | failed _ hmapped hanswer =>
    cases hsource.symm.trans hmapped
    rw [hanswer]
    refine ⟨rfl, rfl, ?_⟩
    rw [LookupCache.get?_options_getOptions, if_pos rfl, hlive]
  | loaded _ hmapped hanswer =>
    cases hsource.symm.trans hmapped
    rw [hanswer]
    exact ⟨rfl, rfl, Dict.get?_insert_self _ _ _⟩

theorem OptionsTrace.get?_of_ne
    (h : OptionsTrace lookups now table column cache answer calls options cache') {key : String}
    (hkey : key ≠ optionsKey table column) :
    Dict.get? cache'.options key = Dict.get? cache.options key := by
  have hread : Dict.get? (cache.getOptions now (optionsKey table column)).2.options key =
      Dict.get? cache.options key := by
    rw [LookupCache.get?_options_getOptions, if_neg hkey]
  cases h with
  | known _ | unmapped _ _ | failed _ _ _ => exact hread
  | loaded _ _ _ => exact (Dict.get?_insert_of_ne _ _ hkey).trans hread

end

/-- **Choice lists over time.** After any errands of an engine with the registered lookup sources, a
column without one has no choice list, and the source is not asked. For any other column the rows of
the last load of its own list, if the cache was not cleared after it and the time to live has not
run out, are its choice list without a call. Otherwise the source is asked once, for the whole table
in the order of the labels. If it fails there is no choice list and none is stored; else its rows,
in their order, are the choice list, which is stored. No other choice list changes. -/
theorem choice_lists_history (ds : DataSource σ) (start : σ) (timeToLive : Option Rat)
    (asked : List (Rat × Errand)) (now : Rat)
    (hclock : (asked.map Prod.fst ++ [now]).Pairwise (· ≤ ·)) (table column : String) :
    let e : Engine σ := { source := ds }
    let done := e.performAll asked { source := start, cache := { timeToLive } }
    let before := done.2
    let run := e.fetchOptions now table column before
    let calls := e.optionCalls now table column before
    let stored := fun key => Dict.get? run.2.cache.options key
    (match Registry.lookups.ofColumn? table column with
      | none => run.1 = [] ∧ calls = []
      | some source =>
        match (lastLoad table column done.1).filter
          fun load => LookupCache.isRecent timeToLive now load.1 with
        | some load => run.1 = load.2.map (optionOf source) ∧ calls = []
        | none =>
          let answer := (ds.lookup (fullRequest source) before.source).1
          calls = [.lookup (fullRequest source) answer] ∧
            match answer with
            | .ok rows => run.1 = rows.map (optionOf source) ∧
                stored (optionsKey table column) = some (now, run.1)
            | .error _ => run.1 = [] ∧ stored (optionsKey table column) = none) ∧
      ∀ key ≠ optionsKey table column, stored key = Dict.get? before.cache.options key := by
  intro e done before run calls stored
  have hkeeps : Keeps Registry.lookups timeToLive now done.1 before.cache :=
    keeps_performAll (e := e) Registry.dotFree_lookups start timeToLive asked now hclock
  have hlive := hkeeps.live table column
  have htrace : OptionsTrace Registry.lookups now table column before.cache
      (fun request => (ds.lookup request before.source).1) calls run.1 run.2.cache :=
    e.fetchOptions_trace now table column before
  refine ⟨?_, fun key hkey => htrace.get?_of_ne hkey⟩
  rw [lastOptions] at hlive
  cases hsource : Registry.lookups.ofColumn? table column with
  | none =>
    rw [hsource] at hlive
    exact htrace.of_unmapped hlive hsource
  | some source =>
    rw [hsource, Option.bind_some, Option.filter_map] at hlive
    dsimp only
    cases hload : (lastLoad table column done.1).filter
      fun load => LookupCache.isRecent timeToLive now load.1 with
    | some load =>
      exact htrace.of_live (hlive.trans (congrArg _ hload))
    | none => exact htrace.of_mapped (hlive.trans (congrArg _ hload)) hsource

/-- A source that is down at first, and then has two stages, one of them without a name. -/
def stages : DataSource Nat where
  query _ n := (.ok {}, n + 1)
  describe _ n := (.ok [], n + 1)
  lookup _ n :=
    (if n = 0 then .error (.ofSource "down")
      else .ok [[("id", .int 1), ("nome", .text "Novo")], [("id", .int 2), ("nome", .null)]],
      n + 1)
  listTables n := (.ok [], n + 1)

/-- The list of stages fails to load at 0 and is loaded at 1, with a time to live of 10. At 5 it is
known, at 12 it is loaded once more. -/
theorem choice_lists_history_stages :
    let e : Engine Nat := { source := stages }
    let asked : List (Rat × Errand) := [(0, .options "leads" "etapa"),
      (1, .options "leads" "etapa"), (2, .resolve "leads" [[("etapa", .text "1")]]),
      (3, .options "leads.etapa" "")]
    let s := (e.performAll asked { source := 0, cache := { timeToLive := some 10 } }).2
    ((asked.map Prod.fst ++ [5]).Pairwise (· ≤ ·) ∧
        (asked.map Prod.fst ++ [12]).Pairwise (· ≤ ·)) ∧
      (e.fetchOptions 5 "leads" "etapa" s).1 = [⟨"1", "Novo"⟩, ⟨"2", ""⟩] ∧
      e.optionCalls 5 "leads" "etapa" s = [] ∧
      e.optionCalls 12 "leads" "etapa" s = [.lookup (fullRequest Registry.stage)
        (stages.lookup (fullRequest Registry.stage) s.source).1] := by
  intro e asked s
  have hclock : (asked.map Prod.fst ++ [5]).Pairwise (· ≤ ·) := by decide
  have hclock' : (asked.map Prod.fst ++ [12]).Pairwise (· ≤ ·) := by decide
  have hload : ∀ now, (lastLoad "leads" "etapa"
      (e.performAll asked { source := 0, cache := { timeToLive := some 10 } }).1).filter
        (fun load => LookupCache.isRecent (some 10) now load.1) =
      if LookupCache.isRecent (some 10) now 1 then some (1,
        [[("id", .int 1), ("nome", .text "Novo")], [("id", .int 2), ("nome", .null)]])
      else none := fun now => rfl
  have hrecent : LookupCache.isRecent (some 10) 5 1 = true := by decide +kernel
  have hexpired : LookupCache.isRecent (some 10) 12 1 = false := by decide +kernel
  have hsource : Registry.lookups.ofColumn? "leads" "etapa" = some Registry.stage := by decide
  have hknown := (choice_lists_history stages 0 (some 10) asked 5 hclock "leads" "etapa").1
  have hasked := (choice_lists_history stages 0 (some 10) asked 12 hclock' "leads" "etapa").1
  simp only [hsource, e, hload, hrecent, hexpired, if_true, Bool.false_eq_true, if_false]
    at hknown hasked
  exact ⟨⟨hclock, hclock'⟩, hknown.1.trans (by decide), hknown.2, hasked.1⟩

end Engine

end TableExplorer
