import Mathlib.Data.List.Forall2
import TableExplorer.Proofs.LookupCache
import TableExplorer.Proofs.Resolve.Labels
import TableExplorer.Proofs.Resolve.Trace

/-!
# Faithful caches

Let the labels of every lookup source come from fixed rows. A cache is faithful if the labels it
holds for a source are among the labels that the rows of the source give. A column can only bring in
such labels, and leaves behind a faithful cache; a lookup that does not fail brings in all labels
that the column needs.

Main results: `Trace.spec`, what a resolution does with a faithful cache, and `Reached.faithful`.
-/

namespace TableExplorer

/-- The lookup sources of all columns. -/
def Registry.Lookups.sources (lookups : Registry.Lookups) : List Registry.LookupSource :=
  lookups.flatMap fun p => p.2.map Prod.snd

/-- Sources that share their labels in a cache are one source. -/
def Registry.Lookups.Separate (lookups : Registry.Lookups) : Prop :=
  ∀ a ∈ lookups.sources, ∀ b ∈ lookups.sources, a.cacheKey = b.cacheKey → a = b

namespace Resolve

variable {σ : Type} {T : LookupTables} {lookups : Registry.Lookups}

/-- Every lookup of labels is answered from the rows of its source, unless the source fails. -/
def ServesLabels (ds : DataSource σ) (T : LookupTables) (lookups : Registry.Lookups) : Prop :=
  ∀ source ∈ lookups.sources, ∀ ids s,
    (ds.lookup (request source ids) s).1 = .ok (T.answer source ids) ∨
      ∃ text, (ds.lookup (request source ids) s).1 = .error (.ofSource text)

/-- The same of a single call. -/
def Served (T : LookupTables) (lookups : Registry.Lookups) (x : Exchange) : Prop :=
  ∀ source ∈ lookups.sources, ∀ ids answer, x = .lookup (request source ids) answer →
    answer = .ok (T.answer source ids) ∨ ∃ text, answer = .error (.ofSource text)

/-- No lookup fails. -/
def AllFound (calls : List Exchange) : Prop :=
  ∀ request f, Exchange.lookup request (.error f) ∉ calls

theorem ServesLabels.served {ds : DataSource σ} (h : ServesLabels ds T lookups) {x : Exchange}
    (hx : x.AnsweredBy ds) : Served T lookups x := by
  rintro source hsource ids answer rfl
  obtain ⟨s, rfl⟩ := hx
  exact h source hsource ids s

/-! ## Labels among labels -/

/-- The first labels are among the second. -/
def Within (a b : Labels) : Prop :=
  ∀ id label, Dict.get? a id = some label → Dict.get? b id = some label

theorem within_nil (b : Labels) : Within [] b := by
  intro id label h
  cases h

theorem Within.get?_eq {a b : Labels} (h : Within a b) {id : String}
    (hid : Dict.contains a id) : Dict.get? a id = Dict.get? b id := by
  obtain ⟨label, hlabel⟩ := Option.isSome_iff_exists.1 hid
  rw [hlabel, h id label hlabel]

theorem Within.get?_eq_none {a b : Labels} (h : Within a b) {id : String}
    (hid : Dict.get? b id = none) : Dict.get? a id = none := by
  cases ha : Dict.get? a id with
  | none => rfl
  | some label => rw [h id label ha] at hid; cases hid

theorem Within.merge {a b e : Labels} (ha : Within a b) (he : Within e b)
    (hnodup : (Dict.keys e).Nodup) : Within (Dict.merge a e) b := by
  intro id label h
  rw [Dict.get?_merge a hnodup, Option.or_eq_some_iff] at h
  rcases h with h | ⟨-, h⟩
  · exact he id label h
  · exact ha id label h

/-- Labels among others do to a cell what those do, or nothing. -/
theorem Within.relabel {a b : Labels} (h : Within a b) (v : Value) :
    relabel a v = v ∨ relabel a v = relabel b v := by
  cases v with
  | text id =>
    cases ha : Dict.get? a id with
    | none => exact .inl (by simp [Resolve.relabel, ha])
    | some label => exact .inr (by simp only [Resolve.relabel, ha, h id label ha])
  | _ => exact .inl rfl

theorem within_answer (source : Registry.LookupSource) {ids : List String} (hids : "" ∉ ids) :
    Within (labelsOf source (T.answer source ids)) (T.labels source) := by
  intro id label h
  rw [T.get?_labelsOf_answer] at h
  by_cases hid : id ∈ ids
  · have hne : id ≠ "" := by
      rintro rfl
      exact hids hid
    rw [if_pos hid] at h
    rw [T.get?_labels, if_neg hne, h]
  · rw [if_neg hid] at h
    cases h

/-- Labels that lack only identifiers that were asked for lack none after the answer. -/
theorem Within.get?_merge_answer {held : Labels} {source : Registry.LookupSource}
    (h : Within held (T.labels source)) {missing : List String} {id : String} (hid : id ≠ "")
    (hknown : id ∉ missing → Dict.contains held id) :
    Dict.get? (Dict.merge held (labelsOf source (T.answer source missing))) id =
      Dict.get? (T.labels source) id := by
  rw [Dict.get?_merge _ (nodup_keys_labelsOf _ _), T.get?_labelsOf_answer]
  by_cases hmem : id ∈ missing
  · have hlabel : Dict.get? (T.labels source) id = Dict.get? (labelsOf source (T source)) id := by
      rw [T.get?_labels, if_neg hid]
    rw [if_pos hmem, ← hlabel]
    cases hget : Dict.get? (T.labels source) id with
    | some label => rfl
    | none => exact h.get?_eq_none hget
  · rw [if_neg hmem, Option.none_or]
    exact h.get?_eq (hknown hmem)

/-! ## Faithful caches -/

/-- The labels that a cache holds for the sources are among those that their rows give. -/
def Faithful (T : LookupTables) (lookups : Registry.Lookups) (cache : LookupCache) : Prop :=
  ∀ source ∈ lookups.sources, Within (cache.heldLabels source.cacheKey) (T.labels source)

theorem Faithful.evictLabels {cache : LookupCache} (h : Faithful T lookups cache) (now : Rat)
    (key : String) : Faithful T lookups (cache.evictLabels now key) := by
  intro source hsource
  rw [cache.heldLabels_evictLabels]
  split
  · exact within_nil _
  · exact h source hsource

theorem Faithful.mergeLabels {cache : LookupCache} (h : Faithful T lookups cache)
    (hseparate : lookups.Separate) {source : Registry.LookupSource}
    (hsource : source ∈ lookups.sources) (now : Rat) {labels : Labels}
    (hlabels : Within labels (T.labels source)) (hnodup : (Dict.keys labels).Nodup) :
    Faithful T lookups (cache.mergeLabels now source.cacheKey labels) := by
  intro other hother
  rw [cache.heldLabels_mergeLabels]
  split
  next hkey =>
    rw [hseparate other hother source hsource hkey]
    exact (h source hsource).merge hlabels hnodup
  · exact h other hother

theorem faithful_clear (cache : LookupCache) : Faithful T lookups cache.clear :=
  fun _ _ => within_nil _

/-! ## One column -/

theorem pending_eq (now : Rat) (source : Registry.LookupSource) (ids : List String)
    (cache : LookupCache) :
    pending now source ids cache =
      (ids.filter fun id =>
        !Dict.contains ((cache.evictLabels now source.cacheKey).heldLabels source.cacheKey) id,
       cache.evictLabels now source.cacheKey) := rfl

/-- The cache with an answer, if there is one. -/
def withAnswer (now : Rat) (source : Registry.LookupSource) (cache : LookupCache) :
    Option (List Row) → LookupCache
  | some fetched => cache.mergeLabels now source.cacheKey (labelsOf source fetched)
  | none => cache

theorem absorb_eq (now : Rat) (source : Registry.LookupSource) (name : String)
    (found : List Row) (answer : Option (List Row)) (cache : LookupCache) :
    absorb now source name found answer cache =
      let after := (withAnswer now source cache answer).evictLabels now source.cacheKey
      (found.map (substitute name (after.heldLabels source.cacheKey)), after) := by
  cases answer <;> rfl

theorem Faithful.withAnswer {cache : LookupCache} (h : Faithful T lookups cache)
    (hseparate : lookups.Separate) {source : Registry.LookupSource}
    (hsource : source ∈ lookups.sources) (now : Rat) {missing : List String}
    (hempty : "" ∉ missing) {answer : Option (List Row)}
    (hanswer : ∀ fetched ∈ answer, fetched = T.answer source missing) :
    Faithful T lookups (withAnswer now source cache answer) := by
  cases answer with
  | none => exact h
  | some fetched =>
    rw [hanswer fetched rfl]
    exact h.mergeLabels hseparate hsource now (within_answer source hempty)
      (nodup_keys_labelsOf _ _)

/-- What a column does with a faithful cache: it relabels cells with labels of its source, and with
all of them where the cache lasts and the lookup does not fail. -/
structure ColumnSpec (T : LookupTables) (lookups : Registry.Lookups) (name : String)
    (source : Registry.LookupSource) (found : List Row) (cache : LookupCache)
    (calls : List Exchange) (labels : Labels) (cache' : LookupCache) : Prop where
  timeToLive : cache'.timeToLive = cache.timeToLive
  faithful : Faithful T lookups cache'
  within : Within labels (T.labels source)
  complete : cache.Lasting → AllFound calls →
    ∀ id ∈ distinctIds found name, Dict.get? labels id = Dict.get? (T.labels source) id

/-- A column with a cache that was just cleaned and an answer to what was missing. -/
theorem columnSpec_absorb {now : Rat} {name : String} {source : Registry.LookupSource}
    {found : List Row} {cache cleaned : LookupCache} {missing : List String}
    {calls : List Exchange} (hseparate : lookups.Separate) (hsource : source ∈ lookups.sources)
    (hfaithful : Faithful T lookups cache)
    (hpending : pending now source (distinctIds found name) cache = (missing, cleaned))
    {answer : Option (List Row)} (hanswer : ∀ fetched ∈ answer, fetched = T.answer source missing)
    (hfound : AllFound calls → missing ≠ [] → answer ≠ none) :
    let after := (withAnswer now source cleaned answer).evictLabels now source.cacheKey
    ColumnSpec T lookups name source found cache calls (after.heldLabels source.cacheKey)
      after := by
  intro after
  rw [pending_eq, Prod.mk.injEq] at hpending
  obtain ⟨hmissing, rfl⟩ := hpending
  have hempty : "" ∉ missing := by
    rw [← hmissing]
    exact fun h => (mem_distinctIds.1 (List.mem_filter.1 h).1).1 rfl
  have hcleaned := hfaithful.evictLabels now source.cacheKey
  have hmerged := hcleaned.withAnswer hseparate hsource now hempty hanswer
  have hafter := hmerged.evictLabels now source.cacheKey
  refine ⟨?_, hafter, hafter source hsource, fun hlasting hall id hid => ?_⟩
  · cases answer <;> simp [after, withAnswer]
  -- What is held after cleaning is complete but for the missing identifiers.
  have hknown : id ∉ missing → Dict.contains
      ((cache.evictLabels now source.cacheKey).heldLabels source.cacheKey) id := by
    intro h
    rw [← hmissing, List.mem_filter] at h
    simpa [hid] using h
  have hfresh := cache.stale_evictLabels now source.cacheKey
  cases answer with
  | none =>
    have hnone : missing = [] := Classical.not_not.1 fun h => hfound hall h rfl
    have hsame : after = cache.evictLabels now source.cacheKey :=
      LookupCache.evictLabels_of_not_stale _ _ _ hfresh
    rw [hsame]
    exact (hcleaned source hsource).get?_eq (hknown (by simp [hnone]))
  | some fetched =>
    have hlasting' : (cache.evictLabels now source.cacheKey).Lasting := by
      rwa [LookupCache.Lasting, cache.timeToLive_evictLabels]
    have hsame : after = (cache.evictLabels now source.cacheKey).mergeLabels now source.cacheKey
        (labelsOf source fetched) :=
      LookupCache.evictLabels_of_not_stale _ _ _
        (LookupCache.stale_mergeLabels _ _ _ _ hlasting' hfresh)
    rw [hsame, LookupCache.heldLabels_mergeLabels, if_pos rfl, hanswer fetched rfl]
    exact (hcleaned source hsource).get?_merge_answer (mem_distinctIds.1 hid).1 hknown

/-- **What a column does.** -/
theorem ColumnTrace.spec {now : Rat} {name : String} {source : Registry.LookupSource}
    {found : List Row} {cache cache' : LookupCache} {calls : List Exchange}
    {outcome : Except Failure (List Row)}
    (h : ColumnTrace now name source found cache calls outcome cache')
    (hseparate : lookups.Separate) (hsource : source ∈ lookups.sources)
    (hserved : ∀ x ∈ calls, Served T lookups x) (hfaithful : Faithful T lookups cache) :
    ∃ labels, outcome = .ok (found.map (substitute name labels)) ∧
      ColumnSpec T lookups name source found cache calls labels cache' := by
  cases h with
  | vacant hids =>
    refine ⟨[], ?_, rfl, hfaithful, within_nil _, fun _ _ id hid => ?_⟩
    · rw [show substitute name [] = id from funext (substitute_nil name), List.map_id]
    · rw [hids] at hid
      cases hid
  | known hids hpending =>
    rw [absorb_eq]
    exact ⟨_, rfl, columnSpec_absorb hseparate hsource hfaithful hpending (by simp) (by simp)⟩
  | @found missing cleaned fetched hids hmissing hpending =>
    have hfetched : fetched = T.answer source missing := by
      rcases hserved _ List.mem_cons_self source hsource missing _ rfl with hok | ⟨text, herr⟩
      · exact Except.ok.inj hok
      · cases herr
    rw [absorb_eq]
    exact ⟨_, rfl, columnSpec_absorb hseparate hsource hfaithful hpending (by simpa) (by simp)⟩
  | passed hids hmissing hpending hkind =>
    rw [absorb_eq]
    exact ⟨_, rfl, columnSpec_absorb hseparate hsource hfaithful hpending (by simp)
      fun hall => absurd List.mem_cons_self (hall _ _)⟩
  | failed hids hmissing hpending hkind =>
    rcases hserved _ List.mem_cons_self source hsource _ _ rfl with hok | ⟨text, herr⟩
    · cases hok
    · cases herr
      exact absurd rfl hkind

/-! ## All columns -/

/-- The labels substituted in each column are among those of its source. -/
abbrev StepsWithin (T : LookupTables) (steps : Dict Labels)
    (columns : Dict Registry.LookupSource) : Prop :=
  List.Forall₂ (fun step column => step.1 = column.1 ∧ Within step.2 (T.labels column.2))
    steps columns

theorem StepsWithin.keys_eq {steps : Dict Labels} {columns : Dict Registry.LookupSource}
    (h : StepsWithin T steps columns) : Dict.keys steps = Dict.keys columns := by
  induction h with
  | nil => rfl
  | cons hstep _ ih => rw [Dict.keys_cons, Dict.keys_cons, hstep.1, ih]

theorem StepsWithin.get? {steps : Dict Labels} {columns : Dict Registry.LookupSource}
    (h : StepsWithin T steps columns) (name : String) :
    Within ((Dict.get? steps name).getD [])
      ((Dict.get? (Dict.mapValues T.labels columns) name).getD []) := by
  induction h with
  | nil => exact within_nil _
  | @cons step column steps columns hstep _ ih =>
    obtain ⟨name', labels⟩ := step
    obtain ⟨_, source⟩ := column
    obtain ⟨rfl, hwithin⟩ := hstep
    show Within ((Dict.get? ((_, labels) :: steps) name).getD [])
      ((Dict.get? ((_, T.labels source) :: Dict.mapValues T.labels columns) name).getD [])
    rw [Dict.get?_cons, Dict.get?_cons]
    by_cases hname : name' = name
    · rw [if_pos hname, if_pos hname]
      exact hwithin
    · rw [if_neg hname, if_neg hname]
      exact ih

/-- **What all columns do.** They relabel cells with labels of their sources and leave a faithful
cache behind; where the cache lasts and no lookup fails, they use all labels. -/
theorem Trace.spec {now : Rat} {columns : Dict Registry.LookupSource} {found : List Row}
    {cache cache' : LookupCache} {calls : List Exchange} {outcome : Except Failure (List Row)}
    (h : Trace now columns found cache calls outcome cache') (hseparate : lookups.Separate)
    (hcolumns : ∀ p ∈ columns, p.2 ∈ lookups.sources)
    (hserved : ∀ x ∈ calls, Served T lookups x) (hfaithful : Faithful T lookups cache) :
    cache'.timeToLive = cache.timeToLive ∧ Faithful T lookups cache' ∧
      (∃ steps, StepsWithin T steps columns ∧
        outcome = .ok (found.map (substituteAll steps))) ∧
      (cache.Lasting → AllFound calls →
        outcome = .ok (found.map (substituteAll (Dict.mapValues T.labels columns)))) := by
  induction h with
  | @done found cache =>
    have hid : found.map (substituteAll []) = found := List.map_id _
    exact ⟨rfl, hfaithful, ⟨[], .nil, by rw [hid]⟩, fun _ _ => by
      rw [show Dict.mapValues T.labels [] = [] from rfl, hid]⟩
  | @step name source rest found found' cache cache' cache'' calls calls' outcome hcolumn _ ih =>
    obtain ⟨labels, hlabels, hspec⟩ := hcolumn.spec hseparate (hcolumns _ List.mem_cons_self)
      (fun x hx => hserved x (List.mem_append_left _ hx)) hfaithful
    cases hlabels
    obtain ⟨httl, hfaithful', ⟨steps, hsteps, houtcome⟩, hall⟩ :=
      ih (fun p hp => hcolumns p (List.mem_cons_of_mem _ hp))
        (fun x hx => hserved x (List.mem_append_right _ hx)) hspec.faithful
    refine ⟨httl.trans hspec.timeToLive, hfaithful', ⟨(name, labels) :: steps, ?_, ?_⟩, ?_⟩
    · exact .cons ⟨rfl, hspec.within⟩ hsteps
    · rw [houtcome, map_substituteAll_cons]
    · intro hlasting hfound
      have hfirst : AllFound calls := fun r f hx => hfound r f (List.mem_append_left _ hx)
      have hrest : AllFound calls' := fun r f hx => hfound r f (List.mem_append_right _ hx)
      have hlasting' : cache'.Lasting := by rwa [LookupCache.Lasting, hspec.timeToLive]
      have hempty : Dict.get? (T.labels source) "" = none := by rw [T.get?_labels, if_pos rfl]
      rw [hall hlasting' hrest, map_substitute_congr (hspec.complete hlasting hfirst)
        ((hspec.within.get?_eq_none hempty).trans hempty.symm)]
      exact congrArg _ (map_substituteAll_cons _ _ _ _).symm
  | failed hcolumn =>
    obtain ⟨labels, hlabels, -⟩ := hcolumn.spec hseparate (hcolumns _ List.mem_cons_self)
      hserved hfaithful
    cases hlabels

/-! ## Reachable caches -/

/-- The caches that resolutions against a source leave behind, from an empty one on, as time goes
by. Clearing and whatever happens to choice lists may come in between. -/
inductive Reached (ds : DataSource σ) (lookups : Registry.Lookups) (timeToLive : Option Rat) :
    Rat → LookupCache → Prop
  | fresh (now : Rat) : Reached ds lookups timeToLive now { timeToLive }
  | later {now later : Rat} {cache : LookupCache} : Reached ds lookups timeToLive now cache →
      now ≤ later → Reached ds lookups timeToLive later cache
  | resolved {now : Rat} {s : Session σ} (found : List Row) (table : String) :
      Reached ds lookups timeToLive now s.cache →
      Reached ds lookups timeToLive now (rows ds lookups now found table s).2.cache
  | cleared {now : Rat} {cache : LookupCache} : Reached ds lookups timeToLive now cache →
      Reached ds lookups timeToLive now cache.clear
  | listed {now : Rat} {cache : LookupCache} (options : Dict (Rat × List LookupOption)) :
      Reached ds lookups timeToLive now cache →
      Reached ds lookups timeToLive now { cache with options }

theorem mem_sources_of_mappedColumns (lookups : Registry.Lookups) (table : String)
    (found : List Row) :
    ∀ p ∈ mappedColumns lookups table found, p.2 ∈ lookups.sources := by
  intro p hp
  cases found with
  | nil => cases hp
  | cons first rest =>
    have hmem : p ∈ (Dict.get? lookups table).getD [] := (List.mem_filter.1 hp).1
    cases htable : Dict.get? lookups table with
    | none => rw [htable] at hmem; cases hmem
    | some columns =>
      rw [htable] at hmem
      exact List.mem_flatMap.2 ⟨_, Dict.mem_of_get? htable, List.mem_map_of_mem hmem⟩

theorem Reached.faithful {ds : DataSource σ} {timeToLive : Option Rat} {now : Rat}
    {cache : LookupCache} (h : Reached ds lookups timeToLive now cache)
    (hseparate : lookups.Separate) (hserves : ServesLabels ds T lookups) :
    cache.timeToLive = timeToLive ∧ Faithful T lookups cache := by
  induction h with
  | fresh now => exact ⟨rfl, fun _ _ => within_nil _⟩
  | later _ _ ih => exact ih
  | @resolved now s found table _ ih =>
    obtain ⟨hby, htrace⟩ := rows_trace ds lookups now found table s
    have hserved : ∀ x ∈ calls ds lookups now found table s, Served T lookups x := by
      intro x hx
      exact hserves.served (hby x hx)
    obtain ⟨httl, hfaithful, -⟩ := htrace.spec hseparate
      (mem_sources_of_mappedColumns lookups table found) hserved ih.2
    exact ⟨httl.trans ih.1, hfaithful⟩
  | cleared _ ih => exact ⟨ih.1, faithful_clear _⟩
  | listed options _ ih => exact ih

end Resolve

end TableExplorer
