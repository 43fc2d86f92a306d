import TableExplorer.Proofs.Resolve.Faithful
import TableExplorer.Proofs.Resolve.Stages

/-!
# Visits to a cache that keeps its labels

Without a time to live nothing expires: a cache only learns labels, and the clock does not matter
(`visits_congr`). A source that has its cache key for itself finds there none but its own labels, so
its columns get the labels of its rows, whatever was looked up before (`Stage.Along`). For sources
that share a key this can fail; their columns then get what the cache happened to hold.

Main results: `along_visit`, what one visit keeps, and `Reached.sound`.
-/

namespace TableExplorer

/-- The source shares its cache key with no other. -/
def Registry.Lookups.Own (lookups : Registry.Lookups) (source : Registry.LookupSource) : Prop :=
  ∀ other ∈ lookups.sources, other.cacheKey = source.cacheKey → other = source

theorem Registry.Lookups.Separate.own {lookups : Registry.Lookups} (h : lookups.Separate)
    {source : Registry.LookupSource} (hsource : source ∈ lookups.sources) :
    lookups.Own source :=
  fun other hother hkey => h other hother source hsource hkey

theorem LookupCache.stale_of_endless {cache : LookupCache} (h : cache.timeToLive = none)
    (now : Rat) (key : String) : cache.stale now key = false := by
  have hnever : cache.isExpired now = fun _ => false := by
    funext storedAt
    rw [isExpired, h]
  unfold stale
  rw [hnever]
  cases Dict.get? cache.loadedAt key <;> rfl

namespace Resolve

variable {σ : Type} {T : LookupTables} {lookups : Registry.Lookups}

/-- Every lookup of labels is answered from the rows of its source. -/
def FindsLabels (ds : DataSource σ) (T : LookupTables) (lookups : Registry.Lookups) : Prop :=
  ∀ source ∈ lookups.sources, ∀ ids s,
    (ds.lookup (request source ids) s).1 = .ok (T.answer source ids)

/-! ## Sound caches -/

/-- A cache without a time to live, in which the labels of a source that has its key for itself are
among those that its rows give. No label is held for the empty identifier. -/
structure Sound (T : LookupTables) (lookups : Registry.Lookups) (cache : LookupCache) : Prop where
  endless : cache.timeToLive = none
  blank : ∀ key, Dict.get? (cache.heldLabels key) "" = none
  within : ∀ source ∈ lookups.sources, lookups.Own source →
    Within (cache.heldLabels source.cacheKey) (T.labels source)

theorem sound_empty : Sound T lookups {} := ⟨rfl, fun _ => rfl, fun _ _ _ => within_nil _⟩

theorem Sound.clear {cache : LookupCache} (h : Sound T lookups cache) :
    Sound T lookups cache.clear := ⟨h.endless, fun _ => rfl, fun _ _ _ => within_nil _⟩

theorem Sound.mergeLabels {cache : LookupCache} (h : Sound T lookups cache)
    {source : Registry.LookupSource} (hsource : source ∈ lookups.sources) {ids : List String}
    (hids : "" ∉ ids) (now : Rat) :
    Sound T lookups
      (cache.mergeLabels now source.cacheKey (labelsOf source (T.answer source ids))) := by
  have hnodup := nodup_keys_labelsOf source (T.answer source ids)
  constructor
  case endless => exact h.endless
  case blank =>
    intro key
    rw [LookupCache.heldLabels_mergeLabels]
    split
    · rw [Dict.get?_merge _ hnodup, T.get?_labelsOf_answer, if_neg hids, Option.none_or]
      exact h.blank _
    · exact h.blank key
  case within =>
    intro other hother hown
    rw [LookupCache.heldLabels_mergeLabels]
    split
    next hkey =>
      have hsame : source = other := hown source hsource hkey.symm
      subst hsame
      exact (h.within source hsource hown).merge (within_answer source hids) hnodup
    · exact h.within other hother hown

/-- The second cache knows every identifier that the first knows. -/
def Grows (cache cache' : LookupCache) : Prop :=
  ∀ key id, Dict.contains (cache.heldLabels key) id → Dict.contains (cache'.heldLabels key) id

theorem grows_mergeLabels (cache : LookupCache) (now : Rat) (key : String) (labels : Labels) :
    Grows cache (cache.mergeLabels now key labels) := by
  intro other id hid
  rw [LookupCache.heldLabels_mergeLabels]
  split
  next hkey =>
    subst hkey
    rw [Dict.contains_iff_mem_keys] at hid ⊢
    exact Dict.mem_keys_merge.2 (.inl hid)
  · exact hid

/-! ## Steps without expiry -/

theorem pending_endless {cache : LookupCache} (h : cache.timeToLive = none) (now : Rat)
    (source : Registry.LookupSource) (ids : List String) :
    pending now source ids cache =
      (ids.filter fun id => !Dict.contains (cache.heldLabels source.cacheKey) id, cache) := by
  rw [pending_eq, cache.evictLabels_of_not_stale _ _ (cache.stale_of_endless h now _)]

theorem absorb_endless {cache : LookupCache} (h : cache.timeToLive = none) (now : Rat)
    (name : String) (source : Registry.LookupSource) (found : List Row)
    (answer : Option (List Row)) :
    absorb now source name found answer cache =
      (found.map (substitute name
        ((withAnswer now source cache answer).heldLabels source.cacheKey)),
        withAnswer now source cache answer) := by
  have hafter : (withAnswer now source cache answer).timeToLive = none := by
    cases answer <;> exact h
  rw [absorb_eq]
  dsimp only
  rw [LookupCache.evictLabels_of_not_stale _ _ _ (LookupCache.stale_of_endless hafter now _)]

/-- What a column without missing labels does, and one that lacks some. -/
theorem advance_cons {cache : LookupCache} (h : cache.timeToLive = none) (now : Rat)
    (name : String) (source : Registry.LookupSource) (rest : Dict Registry.LookupSource)
    (found : List Row) :
    advance now ((name, source) :: rest) found cache =
      let held := cache.heldLabels source.cacheKey
      let missing := (distinctIds found name).filter fun id => !Dict.contains held id
      if distinctIds found name = [] then advance now rest found cache
      else if missing = [] then advance now rest (found.map (substitute name held)) cache
      else (.waiting name source missing found rest, cache) := by
  simp only [advance, pending_endless h, absorb_endless h, withAnswer, List.isEmpty_iff]

theorem snd_advance {cache : LookupCache} (h : cache.timeToLive = none) (now : Rat)
    (columns : Dict Registry.LookupSource) (found : List Row) :
    (advance now columns found cache).2 = cache := by
  induction columns generalizing found with
  | nil => rfl
  | cons column rest ih =>
    rw [advance_cons h]
    dsimp only
    split
    · exact ih _
    · split
      · exact ih _
      · rfl

/-! ## Labels by column -/

theorem substituteAll_append (steps steps' : Dict Labels) (row : Row) :
    substituteAll (steps ++ steps') row = substituteAll steps' (substituteAll steps row) := by
  induction steps generalizing row with
  | nil => rfl
  | cons step steps ih => exact ih _

theorem map_substituteAll_snoc (steps : Dict Labels) (name : String) (labels : Labels)
    (found : List Row) :
    (found.map (substituteAll steps)).map (substitute name labels) =
      found.map (substituteAll (steps ++ [(name, labels)])) := by
  rw [List.map_map]
  exact List.map_congr_left fun row _ => (substituteAll_append steps [(name, labels)] row).symm

/-- Labels for columns: a source that has its key for itself gives those of its rows. -/
abbrev Aligned (T : LookupTables) (lookups : Registry.Lookups) (steps : Dict Labels)
    (columns : Dict Registry.LookupSource) : Prop :=
  List.Forall₂ (fun step column => step.1 = column.1 ∧
    (lookups.Own column.2 → step.2 = T.labels column.2)) steps columns

theorem Aligned.keys_eq {steps : Dict Labels} {columns : Dict Registry.LookupSource}
    (h : Aligned T lookups steps columns) : Dict.keys steps = Dict.keys columns := by
  induction h with
  | nil => rfl
  | cons hstep _ ih => rw [Dict.keys_cons, Dict.keys_cons, hstep.1, ih]

theorem Aligned.snoc {steps : Dict Labels} {columns : Dict Registry.LookupSource}
    (h : Aligned T lookups steps columns) {labels : Labels} {source : Registry.LookupSource}
    (name : String) (hlabels : lookups.Own source → labels = T.labels source) :
    Aligned T lookups (steps ++ [(name, labels)]) (columns ++ [(name, source)]) :=
  List.rel_append h (.cons ⟨rfl, hlabels⟩ .nil)

/-- Where every source has its key for itself, the labels are those of the rows. -/
theorem Aligned.eq_labels {steps : Dict Labels} {columns : Dict Registry.LookupSource}
    (h : Aligned T lookups steps columns) (hown : ∀ p ∈ columns, lookups.Own p.2) :
    steps = Dict.mapValues T.labels columns := by
  induction h with
  | nil => rfl
  | @cons step column steps columns hstep _ ih =>
    have hrest := ih fun p hp => hown p (List.mem_cons_of_mem _ hp)
    have hhead : step = (column.1, T.labels column.2) :=
      Prod.ext hstep.1 (hstep.2 (hown column List.mem_cons_self))
    rw [hhead, hrest]
    rfl

/-- Held labels that are complete for a column do what all labels of its source do. -/
theorem exists_labels {held : Labels} {source : Registry.LookupSource} (name : String)
    (found : List Row) (hblank : Dict.get? held "" = none)
    (hheld : lookups.Own source → ∀ id ∈ distinctIds found name,
      Dict.get? held id = Dict.get? (T.labels source) id) :
    ∃ labels, (lookups.Own source → labels = T.labels source) ∧
      found.map (substitute name held) = found.map (substitute name labels) := by
  by_cases hown : lookups.Own source
  · refine ⟨T.labels source, fun _ => rfl, map_substitute_congr (hheld hown) ?_⟩
    rw [hblank, T.get?_labels, if_pos rfl]
  · exact ⟨held, fun h => absurd h hown, rfl⟩

/-! ## What a stage has done, and what it asks for -/

/-- The stage lies on the way of some rows through columns: those it has passed got their labels. -/
def Stage.Along (T : LookupTables) (lookups : Registry.Lookups)
    (columns : Dict Registry.LookupSource) (found : List Row) : Stage → Prop
  | .ready columns' rows => columns' = columns ∧ rows = found
  | .waiting name source _ rows rest =>
    ∃ passed steps, columns = passed ++ (name, source) :: rest ∧
      Aligned T lookups steps passed ∧ rows = found.map (substituteAll steps)
  | .ended outcome =>
    ∃ steps, Aligned T lookups steps columns ∧ outcome = .ok (found.map (substituteAll steps))

/-- The stage has asked for just the labels that the cache lacks. -/
def Stage.Asks (cache : LookupCache) : Stage → Prop
  | .waiting name source missing rows _ =>
    missing = (distinctIds rows name).filter fun id =>
      !Dict.contains (cache.heldLabels source.cacheKey) id
  | _ => True

/-- The stage has asked for all labels that the cache lacks. -/
def Stage.Covers (cache : LookupCache) : Stage → Prop
  | .waiting name source missing rows _ => "" ∉ missing ∧ ∀ id ∈ distinctIds rows name,
      id ∉ missing → Dict.contains (cache.heldLabels source.cacheKey) id
  | _ => True

theorem Stage.Asks.covers {cache : LookupCache} {stage : Stage} (h : stage.Asks cache) :
    stage.Covers cache := by
  cases stage with
  | waiting name source missing rows rest =>
    have hmissing : missing = _ := h
    constructor
    · intro hmem
      rw [hmissing] at hmem
      exact (mem_distinctIds.1 (List.mem_filter.1 hmem).1).1 rfl
    · intro id hid hknown
      rw [hmissing, List.mem_filter] at hknown
      simpa [hid] using hknown
  | ready | ended => exact h

theorem Stage.Covers.grows {cache cache' : LookupCache} (hgrows : Grows cache cache')
    {stage : Stage} (h : stage.Covers cache) : stage.Covers cache' := by
  cases stage with
  | waiting name source missing rows rest =>
    exact ⟨h.1, fun id hid hknown => hgrows _ _ (h.2 id hid hknown)⟩
  | ready | ended => exact h

/-! ## One visit -/

theorem advance_along {cache : LookupCache} (hsound : Sound T lookups cache) (now : Rat)
    {columns : Dict Registry.LookupSource} (hcolumns : ∀ p ∈ columns, p.2 ∈ lookups.sources)
    {passed : Dict Registry.LookupSource} {steps : Dict Labels}
    (hsteps : Aligned T lookups steps passed) {found rows : List Row}
    (hrows : rows = found.map (substituteAll steps)) :
    let next := (advance now columns rows cache).1
    next.Along T lookups (passed ++ columns) found ∧ next.Asks cache := by
  induction columns generalizing passed steps rows with
  | nil => exact ⟨⟨steps, by rwa [List.append_nil], by rw [hrows]⟩, trivial⟩
  | cons column rest ih =>
    obtain ⟨name, source⟩ := column
    have hrest := fun p hp => hcolumns p (List.mem_cons_of_mem _ hp)
    -- A column is passed with any labels that are complete for it.
    have hpass : ∀ held : Labels, Dict.get? held "" = none →
        (lookups.Own source → ∀ id ∈ distinctIds rows name,
          Dict.get? held id = Dict.get? (T.labels source) id) →
        let next := (advance now rest (rows.map (substitute name held)) cache).1
        next.Along T lookups (passed ++ (name, source) :: rest) found ∧ next.Asks cache := by
      intro held hblank hheld
      obtain ⟨labels, hlabels, hsame⟩ := exists_labels name rows hblank hheld
      have hpassed : rows.map (substitute name held) = _ :=
        hsame.trans (hrows ▸ map_substituteAll_snoc steps name labels found)
      have hnext := ih hrest (hsteps.snoc name hlabels) hpassed
      rwa [List.append_assoc] at hnext
    rw [advance_cons hsound.endless]
    by_cases hids : distinctIds rows name = []
    · simp only [if_pos hids]
      have hvacant := hpass [] rfl (by simp [hids])
      rwa [show substitute name [] = id from funext (substitute_nil name), List.map_id] at hvacant
    · simp only [if_neg hids]
      split
      next hmissing =>
        refine hpass _ (hsound.blank _) fun hown id hid => ?_
        have hwithin := hsound.within source (hcolumns _ List.mem_cons_self) hown
        refine hwithin.get?_eq ?_
        rw [List.filter_eq_nil_iff] at hmissing
        simpa using hmissing id hid
      next => exact ⟨⟨passed, steps, rfl, hsteps, hrows⟩, rfl⟩

theorem advance_along_start {cache : LookupCache} (hsound : Sound T lookups cache) (now : Rat)
    {columns : Dict Registry.LookupSource} (hcolumns : ∀ p ∈ columns, p.2 ∈ lookups.sources)
    (found : List Row) :
    let next := (advance now columns found cache).1
    next.Along T lookups columns found ∧ next.Asks cache :=
  advance_along hsound now hcolumns .nil (List.map_id found).symm

/-- The labels that a column reads after the wait: those held, and those that were missing. -/
def labelsAfter (T : LookupTables) (source : Registry.LookupSource) (missing : List String)
    (cache : LookupCache) : Labels :=
  Dict.merge (cache.heldLabels source.cacheKey) (labelsOf source (T.answer source missing))

/-- The cache after the labels of a column were found. -/
def filled (T : LookupTables) (now : Rat) (source : Registry.LookupSource)
    (missing : List String) (cache : LookupCache) : LookupCache :=
  cache.mergeLabels now source.cacheKey (labelsOf source (T.answer source missing))

theorem heldLabels_filled (now : Rat) (source : Registry.LookupSource) (missing : List String)
    (cache : LookupCache) :
    (filled T now source missing cache).heldLabels source.cacheKey =
      labelsAfter T source missing cache := by
  rw [filled, LookupCache.heldLabels_mergeLabels, if_pos rfl, labelsAfter]

theorem visit_waiting {ds : DataSource σ} (hfinds : FindsLabels ds T lookups) (now : Rat)
    (name : String) {source : Registry.LookupSource} (hsource : source ∈ lookups.sources)
    (missing : List String) (rows : List Row) (rest : Dict Registry.LookupSource)
    {s : Session σ} (hendless : s.cache.timeToLive = none) :
    let cache := filled T now source missing s.cache
    visit ds now (.waiting name source missing rows rest) s =
      ((advance now rest
          (rows.map (substitute name (labelsAfter T source missing s.cache))) cache).1,
        { source := (ds.lookup (request source missing) s.source).2, cache }) := by
  intro cache
  rw [← heldLabels_filled now]
  have hfound := hfinds source hsource missing s.source
  rcases hanswer : ds.lookup (request source missing) s.source with ⟨answer, state⟩
  rw [hanswer] at hfound
  have hok : answer = .ok (T.answer source missing) := hfound
  subst hok
  have hcache : cache.timeToLive = none := hendless
  simp only [visit, hanswer, resume, absorb_endless hendless, withAnswer]
  exact Prod.ext rfl (congrArg (Session.mk state) (snd_advance hcache now rest _))

/-- **What a visit keeps.** The cache stays sound and forgets nothing, and the resolution stays on
its way, whoever else has used the cache in the meantime. -/
theorem along_visit {ds : DataSource σ} (hfinds : FindsLabels ds T lookups) (now : Rat)
    {columns : Dict Registry.LookupSource} (hcolumns : ∀ p ∈ columns, p.2 ∈ lookups.sources)
    {found : List Row} {stage : Stage} {s : Session σ} (hsound : Sound T lookups s.cache)
    (halong : stage.Along T lookups columns found) (hcovers : stage.Covers s.cache) :
    let next := visit ds now stage s
    Sound T lookups next.2.cache ∧ Grows s.cache next.2.cache ∧
      next.1.Along T lookups columns found ∧ next.1.Asks next.2.cache := by
  cases stage with
  | ready columns' rows =>
    obtain ⟨rfl, rfl⟩ := halong
    obtain ⟨hnext, hasks⟩ := advance_along_start hsound now hcolumns rows
    simp only [visit, snd_advance hsound.endless]
    exact ⟨hsound, fun _ _ h => h, hnext, hasks⟩
  | waiting name source missing rows rest =>
    obtain ⟨passed, steps, rfl, hsteps, rfl⟩ := halong
    obtain ⟨hempty, hknown⟩ := hcovers
    have hsource : source ∈ lookups.sources := hcolumns (name, source) (by simp)
    have hrest : ∀ p ∈ rest, p.2 ∈ lookups.sources := fun p hp => hcolumns p (by simp [hp])
    have hfilled : Sound T lookups (filled T now source missing s.cache) :=
      hsound.mergeLabels hsource hempty now
    -- What was known before the wait is known still, and the rest was just found.
    have hblank : Dict.get? (labelsAfter T source missing s.cache) "" = none := by
      rw [← heldLabels_filled now]
      exact hfilled.blank _
    obtain ⟨labels, hlabels, hsame⟩ := exists_labels (T := T) name
      (found.map (substituteAll steps)) hblank fun hown id hid =>
        (hsound.within source hsource hown).get?_merge_answer (mem_distinctIds.1 hid).1
          (hknown id hid)
    obtain ⟨hnext, hasks⟩ := advance_along hfilled now hrest
      (hsteps.snoc name hlabels) (hsame.trans (map_substituteAll_snoc steps name labels found))
    rw [visit_waiting hfinds now name hsource missing _ rest hsound.endless]
    rw [List.append_assoc] at hnext
    exact ⟨hfilled, grows_mergeLabels _ _ _ _, hnext, hasks⟩
  | ended outcome => exact ⟨hsound, fun _ _ h => h, halong, hcovers⟩

theorem along_visits {ds : DataSource σ} (hfinds : FindsLabels ds T lookups) (times : List Rat)
    {columns : Dict Registry.LookupSource} (hcolumns : ∀ p ∈ columns, p.2 ∈ lookups.sources)
    {found : List Row} (stage : Stage) {s : Session σ} (hsound : Sound T lookups s.cache)
    (halong : stage.Along T lookups columns found) (hasks : stage.Asks s.cache) :
    let next := visits ds times stage s
    Sound T lookups next.2.cache ∧ next.1.Along T lookups columns found ∧
      next.1.Asks next.2.cache := by
  induction times generalizing stage s with
  | nil => exact ⟨hsound, halong, hasks⟩
  | cons now times ih =>
    obtain ⟨hsound', -, halong', hasks'⟩ :=
      along_visit hfinds now hcolumns hsound halong hasks.covers
    exact ih _ hsound' halong' hasks'

/-- A resolution on its way that nobody disturbs ends with labels for all its columns. -/
theorem ended_of_along {ds : DataSource σ} (hfinds : FindsLabels ds T lookups)
    {columns : Dict Registry.LookupSource} (hcolumns : ∀ p ∈ columns, p.2 ∈ lookups.sources)
    {found : List Row} {times : List Rat} (stage : Stage) (htimes : stage.left ≤ times.length)
    {s : Session σ} (hsound : Sound T lookups s.cache)
    (halong : stage.Along T lookups columns found) (hasks : stage.Asks s.cache) :
    ∃ steps, Aligned T lookups steps columns ∧
      (visits ds times stage s).1 = .ended (.ok (found.map (substituteAll steps))) := by
  obtain ⟨outcome, hended⟩ := ended_visits ds s htimes
  obtain ⟨-, hway, -⟩ := along_visits hfinds times hcolumns stage hsound halong hasks
  rw [hended] at hway ⊢
  obtain ⟨steps, hsteps, rfl⟩ := hway
  exact ⟨steps, hsteps, rfl⟩

/-! ## Reachable caches -/

/-- The caches that resolutions leave behind are sound. -/
theorem Reached.sound {ds : DataSource σ} (hfinds : FindsLabels ds T lookups) {now : Rat}
    {cache : LookupCache} (h : Reached ds lookups none now cache) : Sound T lookups cache := by
  induction h with
  | fresh now => exact sound_empty
  | later _ _ ih => exact ih
  | @resolved now s found table _ ih =>
    let stage : Stage := .ready (mappedColumns lookups table found) found
    obtain ⟨hsound, -⟩ := along_visits hfinds (List.replicate stage.left now)
      (mem_sources_of_mappedColumns lookups table found) stage ih ⟨rfl, rfl⟩ trivial
    rw [visits_alone ds now stage (Nat.le_refl _)] at hsound
    rwa [rows_eq]
  | cleared _ ih => exact ih.clear
  | listed options _ ih => exact ⟨ih.endless, ih.blank, ih.within⟩

/-! ## The clock does not matter -/

/-- Two caches without a time to live that hold the same labels. -/
structure SameLabels (cache cache' : LookupCache) : Prop where
  endless : cache.timeToLive = none
  endless' : cache'.timeToLive = none
  labels : cache.labels = cache'.labels

theorem SameLabels.heldLabels {cache cache' : LookupCache} (h : SameLabels cache cache')
    (key : String) : cache.heldLabels key = cache'.heldLabels key := by
  rw [LookupCache.heldLabels, LookupCache.heldLabels, h.labels]

theorem advance_congr {cache cache' : LookupCache} (h : SameLabels cache cache') (now now' : Rat)
    (columns : Dict Registry.LookupSource) (found : List Row) :
    (advance now columns found cache).1 = (advance now' columns found cache').1 ∧
      SameLabels (advance now columns found cache).2 (advance now' columns found cache').2 := by
  induction columns generalizing found with
  | nil => exact ⟨rfl, h⟩
  | cons column rest ih =>
    obtain ⟨name, source⟩ := column
    rw [advance_cons h.endless, advance_cons h.endless', h.heldLabels]
    dsimp only
    by_cases hids : distinctIds found name = []
    · rw [if_pos hids, if_pos hids]
      exact ih found
    · rw [if_neg hids, if_neg hids]
      split
      · exact ih _
      · exact ⟨rfl, h⟩

theorem resume_congr {cache cache' : LookupCache} (h : SameLabels cache cache') (now now' : Rat)
    (name : String) (source : Registry.LookupSource) (found : List Row)
    (rest : Dict Registry.LookupSource) (answer : Except Failure (List Row)) :
    (resume now name source found rest cache answer).1 =
        (resume now' name source found rest cache' answer).1 ∧
      SameLabels (resume now name source found rest cache answer).2
        (resume now' name source found rest cache' answer).2 := by
  have habsorbed : ∀ answer, SameLabels (withAnswer now source cache answer)
      (withAnswer now' source cache' answer) := by
    intro answer
    cases answer with
    | none => exact h
    | some fetched =>
      refine ⟨h.endless, h.endless', ?_⟩
      show Dict.insert cache.labels _ (Dict.merge (cache.heldLabels _) _) =
        Dict.insert cache'.labels _ (Dict.merge (cache'.heldLabels _) _)
      rw [h.labels, h.heldLabels]
  cases answer with
  | ok fetched =>
    simp only [resume, absorb_endless h.endless, absorb_endless h.endless',
      (habsorbed (some fetched)).heldLabels]
    exact advance_congr (habsorbed (some fetched)) now now' rest _
  | error f =>
    cases hkind : f.kind with
    | source =>
      simp only [resume, hkind, absorb_endless h.endless, absorb_endless h.endless',
        (habsorbed none).heldLabels]
      exact advance_congr (habsorbed none) now now' rest _
    | _ =>
      simp only [resume, hkind]
      exact ⟨trivial, h⟩

/-- Without a time to live, visits at other times do the same. -/
theorem visits_congr (ds : DataSource σ) {times times' : List Rat}
    (hlength : times.length = times'.length) (stage : Stage) {s s' : Session σ}
    (hsource : s.source = s'.source) (h : SameLabels s.cache s'.cache) :
    (visits ds times stage s).1 = (visits ds times' stage s').1 := by
  induction times generalizing times' stage s s' with
  | nil =>
    rw [List.length_nil, eq_comm, List.length_eq_zero_iff] at hlength
    rw [hlength]
    rfl
  | cons now times ih =>
    cases times' with
    | nil => cases hlength
    | cons now' times' =>
      rw [visits_cons, visits_cons]
      have hrest : times.length = times'.length := Nat.succ.inj hlength
      cases stage with
      | ready columns rows =>
        obtain ⟨hstage, hcache⟩ := advance_congr h now now' columns rows
        simp only [visit]
        rw [hstage]
        exact ih hrest _ hsource hcache
      | waiting name source missing rows rest =>
        simp only [visit]
        rw [hsource]
        obtain ⟨hstage, hcache⟩ := resume_congr h now now' name source rows rest
          (ds.lookup (request source missing) s'.source).1
        rw [hstage]
        exact ih hrest _ rfl hcache
      | ended outcome => exact ih hrest _ hsource h

end Resolve

end TableExplorer
