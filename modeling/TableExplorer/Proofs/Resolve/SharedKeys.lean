import TableExplorer.Proofs.Resolve.Traffic

/-!
# Sources that share a cache key

Labels are cached under the table and the label field of their source, joined by a dot. The field of
the identifiers is not part of this key, and a dot in one of the names can stand for the one between
them, so different sources may share a key (`cacheKey_eq_iff`). Each then finds in the cache what
was looked up for the other, and does not ask for it again.

No label is replaced while it is held. What a column shows for an identifier is thus the label from
the first source under the key that was asked for the identifier and had a row for it, be it that of
the column or not: `firstLabel` is this search through the demands made so far. With a time to live
it begins where the labels last ran out. `Recalls` says that the cache holds what the search finds,
and each column keeps this (`ColumnTrace.recalls`).

Main result: `labels_by_key`.
-/

namespace TableExplorer

/-! ## Which sources share a key -/

/-- The sources have the same table and the same label field, or names that differ only in which of
their dots is the one between table and field. -/
def Registry.LookupSource.Resembles (a b : LookupSource) : Prop :=
  (a.table = b.table ∧ a.labelField = b.labelField) ∨
    (∃ part, b.table = a.table ++ "." ++ part ∧ a.labelField = part ++ "." ++ b.labelField) ∨
    ∃ part, a.table = b.table ++ "." ++ part ∧ b.labelField = part ++ "." ++ a.labelField

/-- Two ways to cut a text at a dot: they are the same, or one cuts behind the dot of the other. -/
theorem append_dot_eq_iff {a b c d : List Char} :
    a ++ '.' :: c = b ++ '.' :: d ↔
      (a = b ∧ c = d) ∨ (∃ part, b = a ++ '.' :: part ∧ c = part ++ '.' :: d) ∨
        ∃ part, a = b ++ '.' :: part ∧ d = part ++ '.' :: c := by
  rw [List.append_eq_append_iff]
  constructor
  · rintro (⟨_ | ⟨_, part⟩, hb, hc⟩ | ⟨_ | ⟨_, part⟩, ha, hd⟩)
    · rw [List.append_nil] at hb
      exact .inl ⟨hb.symm, (List.cons.inj hc).2⟩
    · obtain ⟨rfl, hpart⟩ := List.cons.inj hc
      exact .inr (.inl ⟨part, hb, hpart⟩)
    · rw [List.append_nil] at ha
      exact .inl ⟨ha, (List.cons.inj hd).2.symm⟩
    · obtain ⟨rfl, hpart⟩ := List.cons.inj hd
      exact .inr (.inr ⟨part, ha, hpart⟩)
  · rintro (⟨rfl, rfl⟩ | ⟨part, rfl, rfl⟩ | ⟨part, rfl, rfl⟩)
    · exact .inl ⟨[], by simp, rfl⟩
    · exact .inl ⟨'.' :: part, rfl, rfl⟩
    · exact .inr ⟨'.' :: part, rfl, rfl⟩

theorem Registry.LookupSource.cacheKey_eq_iff {a b : LookupSource} :
    a.cacheKey = b.cacheKey ↔ a.Resembles b := by
  have hdotted : ∀ s t : String, (s ++ "." ++ t).toList = s.toList ++ '.' :: t.toList := by
    simp [String.toList_append]
  have hpart : ∀ p : List Char → Prop, (∃ part, p part) ↔ ∃ part : String, p part.toList :=
    fun p => ⟨fun ⟨part, h⟩ => ⟨String.ofList part, by simpa using h⟩, fun ⟨part, h⟩ => ⟨_, h⟩⟩
  simp only [cacheKey, Resembles, ← String.toList_inj, hdotted, append_dot_eq_iff, hpart]

namespace Resolve

variable {σ : Type} {T : LookupTables} {lookups : Registry.Lookups} {timeToLive : Option Rat}

/-! ## The label found first -/

/-- The label of an identifier in the rows of a source: that of its last row. The empty text is no
identifier. -/
def LookupTables.label? (T : LookupTables) (source : Registry.LookupSource) (id : String) :
    Option String :=
  if id = "" then none
  else (lastRow? source (T source) id).map fun row => (labelIn source row).label

theorem get?_labels_eq (source : Registry.LookupSource) (id : String) :
    Dict.get? (T.labels source) id = T.label? source id := by
  rw [T.get?_labels, get?_labelsOf, LookupTables.label?]

/-- An identifier in a column, with the source of the column. -/
structure Demand where
  source : Registry.LookupSource
  id : String

/-- The identifiers in a mapped column, each where it is first seen. -/
def demandsOf (rows : List Row) (column : String × Registry.LookupSource) : List Demand :=
  (firstSeen column.1 rows).map (Demand.mk column.2)

/-- The identifiers in all mapped columns of a job, in the order in which it resolves them. -/
def Job.demands (job : Job) (lookups : Registry.Lookups) : List Demand :=
  (job.columns lookups).flatMap (demandsOf job.rows)

/-- The label of an identifier from the first of some demands for it under a cache key whose source
has a row for it. -/
def firstLabel (T : LookupTables) (demands : List Demand) (key id : String) : Option String :=
  demands.findSome? fun d =>
    if d.source.cacheKey = key ∧ d.id = id then T.label? d.source id else none

theorem firstLabel_append (demands more : List Demand) (key id : String) :
    firstLabel T (demands ++ more) key id =
      (firstLabel T demands key id).or (firstLabel T more key id) :=
  List.findSome?_append

theorem firstLabel_map (source : Registry.LookupSource) (ids : List String) (key id : String) :
    firstLabel T (ids.map (Demand.mk source)) key id =
      if source.cacheKey = key ∧ id ∈ ids then T.label? source id else none := by
  induction ids with
  | nil => simp [firstLabel]
  | cons first ids ih =>
    rw [firstLabel] at ih
    rw [List.map_cons, firstLabel, List.findSome?_cons, ih]
    grind

theorem firstLabel_eq_some {demands : List Demand} {key id label : String}
    (h : firstLabel T demands key id = some label) :
    ∃ d ∈ demands, d.source.cacheKey = key ∧ T.label? d.source id = some label := by
  obtain ⟨d, hd, hlabel⟩ := List.exists_of_findSome?_eq_some h
  split at hlabel
  next hmatch => exact ⟨d, hd, hmatch.1, hlabel⟩
  · cases hlabel

theorem firstLabel_blank (demands : List Demand) (key : String) :
    firstLabel T demands key "" = none := by
  rw [Option.eq_none_iff_forall_ne_some]
  intro label h
  obtain ⟨d, -, -, hlabel⟩ := firstLabel_eq_some h
  cases hlabel

/-- Where all demands under the key of a source are its own, the label found is its own. -/
theorem firstLabel_or_own {demands : List Demand} {own : Registry.LookupSource}
    (h : ∀ d ∈ demands, d.source.cacheKey = own.cacheKey → d.source = own) (id : String) :
    (firstLabel T demands own.cacheKey id).or (T.label? own id) = T.label? own id := by
  cases hfirst : firstLabel T demands own.cacheKey id with
  | none => rfl
  | some label =>
    obtain ⟨d, hd, hkey, hlabel⟩ := firstLabel_eq_some hfirst
    rw [← hlabel, h d hd hkey]
    cases T.label? own id <;> rfl

/-! ## What the cache recalls -/

/-- Some of the demands, without those before a certain moment; without a time to live, all. -/
structure Since (timeToLive : Option Rat) (recent demands : List Demand) : Prop where
  suffix : recent <:+ demands
  all : timeToLive = none → recent = demands

theorem Since.append {recent demands : List Demand} (h : Since timeToLive recent demands)
    (more : List Demand) : Since timeToLive (recent ++ more) (demands ++ more) := by
  obtain ⟨before, hbefore⟩ := h.suffix
  exact ⟨⟨before, by rw [← hbefore, List.append_assoc]⟩, fun hnone => by rw [h.all hnone]⟩

/-- After some demands, the cache holds under each key the labels found first since they ran out. -/
structure Recalls (T : LookupTables) (timeToLive : Option Rat) (demands : List Demand)
    (cache : LookupCache) : Prop where
  timeToLive_eq : cache.timeToLive = timeToLive
  held : ∀ key, ∃ recent, Since timeToLive recent demands ∧
    ∀ id, Dict.get? (cache.heldLabels key) id = firstLabel T recent key id

theorem recalls_empty : Recalls T timeToLive [] { timeToLive } :=
  ⟨rfl, fun _ => ⟨[], ⟨List.suffix_rfl, fun _ => rfl⟩, fun _ => rfl⟩⟩

theorem Recalls.evictLabels {demands : List Demand} {cache : LookupCache}
    (h : Recalls T timeToLive demands cache) (now : Rat) (key : String) :
    Recalls T timeToLive demands (cache.evictLabels now key) := by
  constructor
  case timeToLive_eq => exact (cache.timeToLive_evictLabels now key).trans h.timeToLive_eq
  case held =>
    intro other
    rw [cache.heldLabels_evictLabels]
    split
    next hstale =>
      -- The search begins anew here, which does not happen without a time to live.
      refine ⟨[], ⟨List.nil_suffix, fun hnone => ?_⟩, fun _ => rfl⟩
      rw [cache.stale_of_endless (h.timeToLive_eq.trans hnone)] at hstale
      cases hstale.1
    · exact h.held other

/-- Labels of more identifiers of a source, for those that had none. -/
theorem Recalls.more {demands : List Demand} {cache cache' : LookupCache}
    (h : Recalls T timeToLive demands cache) {source : Registry.LookupSource} {ids : List String}
    (httl : cache'.timeToLive = cache.timeToLive)
    (hothers : ∀ key, key ≠ source.cacheKey → cache'.heldLabels key = cache.heldLabels key)
    (hown : ∀ id, Dict.get? (cache'.heldLabels source.cacheKey) id =
      (Dict.get? (cache.heldLabels source.cacheKey) id).or
        (if id ∈ ids then T.label? source id else none)) :
    Recalls T timeToLive (demands ++ ids.map (Demand.mk source)) cache' := by
  refine ⟨httl.trans h.timeToLive_eq, fun key => ?_⟩
  obtain ⟨recent, hsince, hheld⟩ := h.held key
  refine ⟨_, hsince.append _, fun id => ?_⟩
  rw [firstLabel_append, firstLabel_map, ← hheld]
  by_cases hkey : key = source.cacheKey
  · subst hkey
    simp only [hown, true_and]
  · rw [hothers key hkey, if_neg fun hboth => hkey hboth.1.symm, Option.or_none]

/-! ## One column -/

/-- A time to live with which labels may run out as soon as they are stored. -/
def Fleeting (timeToLive : Option Rat) : Prop := ∃ ttl, timeToLive = some ttl ∧ ttl < 0

/-- The labels put in a column after some demands: for each identifier that it has, the label found
first, and that of its own source if there is none. -/
def Shows (T : LookupTables) (timeToLive : Option Rat) (demands : List Demand)
    (source : Registry.LookupSource) (ids : List String) (labels : Labels) : Prop :=
  ∃ recent, Since timeToLive recent demands ∧
    ((∀ id, id = "" ∨ id ∈ ids → Dict.get? labels id =
      (firstLabel T recent source.cacheKey id).or (T.label? source id)) ∨
    (labels = [] ∧ Fleeting timeToLive))

theorem shows_nil (demands : List Demand) (source : Registry.LookupSource) :
    Shows T timeToLive demands source [] [] := by
  refine ⟨demands, ⟨List.suffix_rfl, fun _ => rfl⟩, .inl ?_⟩
  rintro id (rfl | hid)
  · rw [firstLabel_blank]
    rfl
  · cases hid

theorem heldLabels_withAnswer_of_ne (now : Rat) (source : Registry.LookupSource)
    (cache : LookupCache) (answer : Option (List Row)) {key : String}
    (hkey : key ≠ source.cacheKey) :
    (withAnswer now source cache answer).heldLabels key = cache.heldLabels key := by
  cases answer with
  | none => rfl
  | some fetched => rw [withAnswer, LookupCache.heldLabels_mergeLabels, if_neg hkey]

/-- The answer for the missing identifiers of a column completes those that are held. -/
theorem get?_heldLabels_withAnswer {cache : LookupCache} (now : Rat)
    {source : Registry.LookupSource} {ids missing : List String} (hids : "" ∉ ids)
    (hmissing : missing =
      ids.filter fun id => !Dict.contains (cache.heldLabels source.cacheKey) id)
    {answer : Option (List Row)}
    (hanswer : answer = some (T.answer source missing) ∨ (answer = none ∧ missing = []))
    (id : String) :
    Dict.get? ((withAnswer now source cache answer).heldLabels source.cacheKey) id =
      (Dict.get? (cache.heldLabels source.cacheKey) id).or
        (if id ∈ ids then T.label? source id else none) := by
  have hafter : Dict.get? ((withAnswer now source cache answer).heldLabels source.cacheKey) id =
      (if id ∈ missing then Dict.get? (labelsOf source (T source)) id else none).or
        (Dict.get? (cache.heldLabels source.cacheKey) id) := by
    rcases hanswer with rfl | ⟨rfl, rfl⟩
    · rw [← get?_labelsAfter, ← heldLabels_filled now]
      rfl
    · rfl
  have hmem : id ∈ missing ↔
      id ∈ ids ∧ Dict.get? (cache.heldLabels source.cacheKey) id = none := by
    simp [hmissing, Dict.contains]
  simp only [hafter, hmem]
  cases Dict.get? (cache.heldLabels source.cacheKey) id with
  | some label => simp
  | none =>
    by_cases hid : id ∈ ids
    · have hne : id ≠ "" := fun hblank => hids (hblank ▸ hid)
      rw [← get?_labels_eq, T.get?_labels, if_neg hne]
      simp [hid]
    · simp [hid]

/-- With any other time to live, labels can be read right after they were stored. -/
theorem fleeting_of_stale {cache : LookupCache} (httl : cache.timeToLive = timeToLive) {now : Rat}
    {source : Registry.LookupSource} (hlive : cache.stale now source.cacheKey = false)
    {answer : Option (List Row)}
    (h : (withAnswer now source cache answer).stale now source.cacheKey) : Fleeting timeToLive := by
  cases answer with
  | none => exact absurd h (by simp [withAnswer, hlive])
  | some fetched =>
    by_contra hlasting
    have hlasts : cache.Lasting := by
      intro ttl hsome
      by_contra hneg
      exact hlasting ⟨ttl, httl.symm.trans hsome, Rat.not_le.1 hneg⟩
    rw [withAnswer, LookupCache.stale_mergeLabels _ _ _ _ hlasts hlive] at h
    cases h

/-- Asking for what is missing shows the labels found first, and the cache recalls the demands. -/
theorem Recalls.absorb {demands : List Demand} {cache : LookupCache}
    (h : Recalls T timeToLive demands cache) {now : Rat} {name : String}
    {source : Registry.LookupSource} {rows : List Row} {missing : List String}
    {cleaned : LookupCache}
    (hpending : pending now source (distinctIds rows name) cache = (missing, cleaned))
    {answer : Option (List Row)}
    (hanswer : answer = some (T.answer source missing) ∨ (answer = none ∧ missing = [])) :
    let after := (withAnswer now source cleaned answer).evictLabels now source.cacheKey
    Shows T timeToLive demands source (firstSeen name rows) (after.heldLabels source.cacheKey) ∧
      Recalls T timeToLive (demands ++ demandsOf rows (name, source)) after := by
  intro after
  have hids : "" ∉ firstSeen name rows := fun hmem => (mem_firstSeen.1 hmem).1 rfl
  rw [pending_eq, distinctIds_eq_firstSeen] at hpending
  obtain ⟨hmissing, rfl⟩ := Prod.mk.inj hpending
  have hevicted := h.evictLabels now source.cacheKey
  have hheld := get?_heldLabels_withAnswer (T := T) now hids hmissing.symm hanswer
  have hmore : Recalls T timeToLive (demands ++ demandsOf rows (name, source)) _ :=
    hevicted.more (by cases answer <;> rfl)
      (fun _ hkey => heldLabels_withAnswer_of_ne now source _ answer hkey) hheld
  refine ⟨?_, hmore.evictLabels now source.cacheKey⟩
  obtain ⟨recent, hsince, hrecent⟩ := hevicted.held source.cacheKey
  refine ⟨recent, hsince, ?_⟩
  rw [LookupCache.heldLabels_evictLabels]
  split
  next hstale =>
    have hlive := cache.stale_evictLabels now source.cacheKey
    exact .inr ⟨rfl, fleeting_of_stale hevicted.timeToLive_eq hlive hstale.1⟩
  next =>
    refine .inl fun id hid => ?_
    rw [hheld, hrecent]
    rcases hid with rfl | hid
    · rw [if_neg hids]
      rfl
    · rw [if_pos hid]

/-- **What a column does with what the cache recalls.** Of its identifiers it asks for those that
the cache does not hold, and shows for each the label found first. -/
theorem ColumnTrace.recalls {ds : DataSource σ} (hfinds : FindsLabels ds T lookups) {now : Rat}
    {name : String} {source : Registry.LookupSource} (hsource : source ∈ lookups.sources)
    {rows : List Row} {cache cache' : LookupCache} {calls : List Exchange}
    {outcome : Except Failure (List Row)}
    (h : ColumnTrace now name source rows cache calls outcome cache')
    (hby : ∀ x ∈ calls, x.AnsweredBy ds) {demands : List Demand}
    (hrecalls : Recalls T timeToLive demands cache) :
    ∃ labels, outcome = .ok (rows.map (substitute name labels)) ∧
      Shows T timeToLive demands source (firstSeen name rows) labels ∧
      Recalls T timeToLive (demands ++ demandsOf rows (name, source)) cache' := by
  have hanswer : ∀ ids answer, Exchange.lookup (request source ids) answer ∈ calls →
      answer = .ok (T.answer source ids) := by
    intro ids answer hx
    obtain ⟨s, rfl⟩ := hby _ hx
    exact hfinds source hsource ids s
  cases h with
  | vacant hids =>
    rw [distinctIds_eq_firstSeen] at hids
    refine ⟨[], ?_, hids ▸ shows_nil demands source, ?_⟩
    · rw [List.map_congr_left fun row _ => substitute_nil name row, List.map_id']
    · rw [demandsOf, hids]
      simpa using hrecalls
  | known _ hpending =>
    rw [absorb_eq]
    exact ⟨_, rfl, hrecalls.absorb hpending (.inr ⟨rfl, rfl⟩)⟩
  | found _ _ hpending =>
    have hfetched := Except.ok.inj (hanswer _ _ List.mem_cons_self)
    rw [absorb_eq]
    exact ⟨_, rfl, hrecalls.absorb hpending (.inl (congrArg some hfetched))⟩
  | passed | failed => cases hanswer _ _ List.mem_cons_self

/-! ## All columns -/

theorem demandsOf_map_substitute {name : String} (labels : Labels) (rows : List Row)
    {columns : Dict Registry.LookupSource} (h : name ∉ Dict.keys columns) :
    columns.flatMap (demandsOf (rows.map (substitute name labels))) =
      columns.flatMap (demandsOf rows) := by
  refine List.flatMap_congr fun p hp => ?_
  have hne : p.1 ≠ name := fun heq => h (heq ▸ Dict.mem_keys_of_mem hp)
  rw [demandsOf, firstSeen_map_substitute hne, demandsOf]

/-- **What a resolution does with what the cache recalls.** -/
theorem Trace.recalls {ds : DataSource σ} (hfinds : FindsLabels ds T lookups) {now : Rat}
    {columns : Dict Registry.LookupSource} {rows : List Row} {cache cache' : LookupCache}
    {calls : List Exchange} {outcome : Except Failure (List Row)}
    (h : Trace now columns rows cache calls outcome cache')
    (hcolumns : ∀ p ∈ columns, p.2 ∈ lookups.sources) (hnodup : (Dict.keys columns).Nodup)
    (hby : ∀ x ∈ calls, x.AnsweredBy ds) {demands : List Demand}
    (hrecalls : Recalls T timeToLive demands cache) :
    ∃ steps, outcome = .ok (rows.map (substituteAll steps)) ∧
      Dict.keys steps = Dict.keys columns ∧
      (∀ passed name source rest, columns = passed ++ (name, source) :: rest →
        Shows T timeToLive (demands ++ passed.flatMap (demandsOf rows)) source
          (firstSeen name rows) ((Dict.get? steps name).getD [])) ∧
      Recalls T timeToLive (demands ++ columns.flatMap (demandsOf rows)) cache' := by
  induction h generalizing demands with
  | @done rows cache =>
    refine ⟨[], ?_, rfl, fun passed _ _ _ heq => ?_, by simpa using hrecalls⟩
    · rw [show rows.map (substituteAll []) = rows from List.map_id _]
    · cases passed <;> cases heq
  | @step name source rest rows _ _ _ _ _ _ _ hcolumn _ ih =>
    rw [Dict.keys_cons, List.nodup_cons] at hnodup
    obtain ⟨labels, hrows, hshows, hmore⟩ := hcolumn.recalls hfinds (hcolumns _ List.mem_cons_self)
      (fun x hx => hby x (List.mem_append_left _ hx)) hrecalls
    cases hrows
    obtain ⟨steps, houtcome, hkeys, hsteps, hall⟩ :=
      ih (fun p hp => hcolumns p (List.mem_cons_of_mem _ hp)) hnodup.2
        (fun x hx => hby x (List.mem_append_right _ hx)) hmore
    refine ⟨(name, labels) :: steps, ?_, ?_, fun passed column own rest' heq => ?_, ?_⟩
    · rw [houtcome, map_substituteAll_cons]
    · rw [Dict.keys_cons, Dict.keys_cons, hkeys]
    · cases passed with
      | nil =>
        cases heq
        rw [Dict.get?_cons, if_pos rfl]
        simpa using hshows
      | cons first passed =>
        obtain ⟨rfl, rfl⟩ := List.cons.inj heq
        have hmem : column ∈ Dict.keys (passed ++ (column, own) :: rest') :=
          Dict.mem_keys_of_mem (List.mem_append_right _ List.mem_cons_self)
        have hne : column ≠ name := fun heq => hnodup.1 (heq ▸ hmem)
        have hpassed : name ∉ Dict.keys passed := fun hname =>
          hnodup.1 (((List.sublist_append_left _ _).map Prod.fst).subset hname)
        -- The first column has changed its own cells alone, so the others demand what they did.
        have hstep := hsteps passed column own rest' rfl
        rw [demandsOf_map_substitute labels rows hpassed, firstSeen_map_substitute hne] at hstep
        rw [Dict.get?_cons, if_neg (Ne.symm hne), List.flatMap_cons, ← List.append_assoc]
        exact hstep
    · rw [demandsOf_map_substitute labels rows hnodup.1] at hall
      rwa [List.flatMap_cons, ← List.append_assoc]
  | failed hcolumn =>
    obtain ⟨labels, hrows, -⟩ := hcolumn.recalls hfinds (hcolumns _ List.mem_cons_self) hby hrecalls
    cases hrows

/-! ## Resolutions one after the other -/

/-- The session after some jobs, done at these times. -/
def sessionAfter (ds : DataSource σ) (lookups : Registry.Lookups) (jobs : List (Rat × Job))
    (s : Session σ) : Session σ :=
  jobs.foldl (fun s (now, job) => (rows ds lookups now job.rows job.table s).2) s

theorem Recalls.sessionAfter {ds : DataSource σ} (hfinds : FindsLabels ds T lookups)
    (hcolumns : ∀ table, (Dict.keys (lookups.ofTable table)).Nodup) (jobs : List (Rat × Job))
    {demands : List Demand} {s : Session σ} (h : Recalls T timeToLive demands s.cache) :
    Recalls T timeToLive (demands ++ jobs.flatMap fun (_, job) => job.demands lookups)
      (sessionAfter ds lookups jobs s).cache := by
  induction jobs generalizing demands s with
  | nil => simpa [Resolve.sessionAfter] using h
  | cons timed jobs ih =>
    obtain ⟨now, job⟩ := timed
    obtain ⟨hby, htrace⟩ := rows_trace ds lookups now job.rows job.table s
    obtain ⟨-, -, -, -, hafter⟩ := htrace.recalls hfinds (job.mem_sources lookups)
      (nodup_mappedColumns (hcolumns job.table) job.rows) hby h
    rw [List.flatMap_cons, ← List.append_assoc]
    exact ih hafter

/-! ## Cell by cell -/

/-- A cell with the label told for it in its place, if there is one that says something. -/
def labelled (label? : String → Option String) : Value → Value
  | .text id =>
    match label? id with
    | some label => if label.isEmpty then .text id else .text label
    | none => .text id
  | v => v

theorem relabel_eq_labelled {labels : Labels} {label? : String → Option String} {value : Value}
    (h : ∀ id, value = .text id → Dict.get? labels id = label? id) :
    relabel labels value = labelled label? value := by
  cases value with
  | text id =>
    cases hlabel : label? id <;> simp [relabel, labelled, h id rfl, hlabel]
  | _ => rfl

theorem reference_eq_labelled {columns : Dict Registry.LookupSource} {column : String}
    {own : Registry.LookupSource} (h : Dict.get? columns column = some own) (value : Value) :
    T.reference columns column value = labelled (T.label? own) value := by
  rw [T.reference_eq, Dict.get?_mapValues, h]
  exact relabel_eq_labelled fun id _ => get?_labels_eq own id

/-- After some demands, the cell shows the label found first, or that of its own source if there is
none. -/
def FoundFirst (T : LookupTables) (timeToLive : Option Rat) (demands : List Demand)
    (own : Registry.LookupSource) (value value' : Value) : Prop :=
  ∃ recent, Since timeToLive recent demands ∧
    (value' =
        labelled (fun id => (firstLabel T recent own.cacheKey id).or (T.label? own id)) value ∨
      (value' = value ∧ Fleeting timeToLive))

theorem Shows.foundFirst {demands : List Demand} {own : Registry.LookupSource} {ids : List String}
    {labels : Labels} (h : Shows T timeToLive demands own ids labels) {value : Value}
    (hids : ∀ id, value = .text id → id = "" ∨ id ∈ ids) :
    FoundFirst T timeToLive demands own value (relabel labels value) := by
  obtain ⟨recent, hsince, hlabels⟩ := h
  refine ⟨recent, hsince, ?_⟩
  rcases hlabels with hfirst | ⟨rfl, hfleeting⟩
  · exact .inl (relabel_eq_labelled fun id hid => hfirst id (hids id hid))
  · exact .inr ⟨relabel_nil value, hfleeting⟩

/-- Where no other source that was asked resembles the own one, no other is found first. -/
theorem FoundFirst.alone {demands : List Demand} {own : Registry.LookupSource}
    {value value' : Value} (h : FoundFirst T timeToLive demands own value value')
    (halone : ∀ d ∈ demands, d.source.Resembles own → d.source = own) :
    value' = labelled (T.label? own) value ∨ (value' = value ∧ Fleeting timeToLive) := by
  obtain ⟨recent, hsince, hvalue⟩ := h
  have hsame : ∀ d ∈ recent, d.source.cacheKey = own.cacheKey → d.source = own := fun d hd hkey =>
    halone d (hsince.suffix.subset hd) (Registry.LookupSource.cacheKey_eq_iff.1 hkey)
  simpa only [firstLabel_or_own hsame] using hvalue

theorem mem_sources_of_demandsOf {columns : Dict Registry.LookupSource}
    (h : ∀ p ∈ columns, p.2 ∈ lookups.sources) (rows : List Row) :
    ∀ d ∈ columns.flatMap (demandsOf rows), d.source ∈ lookups.sources := by
  intro d hd
  obtain ⟨p, hp, hd⟩ := List.mem_flatMap.1 hd
  obtain ⟨id, -, rfl⟩ := List.mem_map.1 hd
  exact h p hp

/-- What a resolution makes of a cell, after some demands before it. A cell of a mapped column gets
the label found first among these demands and those of the columns before it. Where no other source
resembles that of the column, this is its reference value. -/
structure LabelledCell (T : LookupTables) (lookups : Registry.Lookups) (timeToLive : Option Rat)
    (past : List Demand) (columns : Dict Registry.LookupSource) (rows : List Row)
    (column : String) (value value' : Value) : Prop where
  unmapped : column ∉ Dict.keys columns → value' = value
  mapped : ∀ passed own rest, columns = passed ++ (column, own) :: rest →
    FoundFirst T timeToLive (past ++ passed.flatMap (demandsOf rows)) own value value'
  alone : ∀ own, Dict.get? columns column = some own →
    (∀ other ∈ lookups.sources, other.Resembles own → other = own) →
    value' = T.reference columns column value ∨ (value' = value ∧ Fleeting timeToLive)

/-- **Labels are found by key.** Any resolutions one after the other share a cache that is empty at
first, with any time to live and at any times, and lookups are always answered from fixed rows. Of
the sources that were asked for a value under the cache key of its column, since the labels last ran
out, the first that has a row for it gives the label that is put in its place, be it the source of
the column or not. Where no other source resembles that of the column, the label comes from the last
row there for the value. -/
theorem labels_by_key (ds : DataSource σ) (T : LookupTables) (lookups : Registry.Lookups)
    (hfinds : FindsLabels ds T lookups)
    (hcolumns : ∀ table, (Dict.keys (lookups.ofTable table)).Nodup) (timeToLive : Option Rat)
    (jobs : List (Rat × Job)) (source : σ) (now : Rat) (job : Job) :
    let past := jobs.flatMap fun (_, job) => job.demands lookups
    let s := sessionAfter ds lookups jobs { source, cache := { timeToLive } }
    ∃ found, (rows ds lookups now job.rows job.table s).1 = .ok found ∧
      List.Forall₂ (CellsRelated
        (LabelledCell T lookups timeToLive past (job.columns lookups) job.rows))
        job.rows found := by
  intro past s
  have hsources := job.mem_sources lookups
  have hnodup := nodup_mappedColumns (hcolumns job.table) job.rows
  have hpast : ∀ d ∈ past, d.source ∈ lookups.sources := by
    intro d hd
    obtain ⟨⟨_, earlier⟩, -, hd⟩ := List.mem_flatMap.1 hd
    exact mem_sources_of_demandsOf (earlier.mem_sources lookups) earlier.rows d hd
  have hrecalls : Recalls T timeToLive ([] ++ past) s.cache :=
    recalls_empty.sessionAfter hfinds hcolumns jobs
  rw [List.nil_append] at hrecalls
  obtain ⟨hby, htrace⟩ := rows_trace ds lookups now job.rows job.table s
  obtain ⟨steps, houtcome, hkeys, hsteps, -⟩ := htrace.recalls hfinds hsources hnodup hby hrecalls
  refine ⟨_, houtcome, forall₂_substituteAll_of_mem (hkeys ▸ hnodup) ?_⟩
  intro row hrow column value hvalue
  have hmapped : ∀ passed own rest, job.columns lookups = passed ++ (column, own) :: rest →
      FoundFirst T timeToLive (past ++ passed.flatMap (demandsOf job.rows)) own value
        (relabel ((Dict.get? steps column).getD []) value) := by
    intro passed own rest hsplit
    refine (hsteps passed column own rest hsplit).foundFirst ?_
    rintro id rfl
    rw [or_iff_not_imp_left]
    exact fun hid => mem_firstSeen.2 ⟨hid, row, hrow, hvalue⟩
  constructor
  case unmapped =>
    intro hcolumn
    rw [(Dict.get?_eq_none_iff steps column).2 (hkeys ▸ hcolumn), Option.getD_none, relabel_nil]
  case mapped => exact hmapped
  case alone =>
    intro own hown halone
    obtain ⟨passed, rest, hsplit⟩ := List.append_of_mem (Dict.mem_of_get? hown)
    have hpassed : ∀ p ∈ passed, p.2 ∈ lookups.sources := fun p hp =>
      hsources p (hsplit ▸ List.mem_append_left _ hp)
    rw [reference_eq_labelled hown]
    refine (hmapped passed own rest hsplit).alone fun d hd => halone d.source ?_
    rcases List.mem_append.1 hd with hd | hd
    · exact hpast d hd
    · exact mem_sources_of_demandsOf hpassed job.rows d hd

/-- Two people. The number of one is the code of the other. -/
def people : LookupTables := fun _ =>
  [[("id", .int 1), ("code", .int 2), ("name", .text "Ana")],
    [("id", .int 2), ("code", .int 1), ("name", .text "Bruno")]]

/-- A name was looked up for the number 1. It is shown for the code 1 as well, which is that of
somebody else. -/
theorem labels_by_key_people :
    let owner : Registry.LookupSource := { table := "people", labelField := "name" }
    let reviewer : Registry.LookupSource := { owner with idField := "code" }
    let lookups : Registry.Lookups := [("tasks", [("owner", owner), ("reviewer", reviewer)])]
    let ds := people.scheduled fun _ => none
    let jobs : List (Rat × Job) := [(1, ⟨"tasks", [[("owner", .text "1")]]⟩)]
    let job : Job := ⟨"tasks", [[("reviewer", .text "1")], [("reviewer", .text "2")]]⟩
    let past := jobs.flatMap fun (_, job) => job.demands lookups
    let s := sessionAfter ds lookups jobs { source := 0, cache := { timeToLive := some 60 } }
    (FindsLabels ds people lookups ∧ ∀ table, (Dict.keys (lookups.ofTable table)).Nodup) ∧
      people.reference (job.columns lookups) "reviewer" (.text "1") = .text "Bruno" ∧
      ∃ found, (rows ds lookups 2 job.rows job.table s).1 = .ok found ∧
        columnTexts "reviewer" found = ["Ana", "Ana"] ∧
        List.Forall₂ (CellsRelated
          (LabelledCell people lookups (some 60) past (job.columns lookups) job.rows))
          job.rows found := by
  intro owner reviewer lookups ds jobs job past s
  have hfinds : FindsLabels ds people lookups := fun _ _ _ _ => rfl
  have hcolumns : ∀ table, (Dict.keys (lookups.ofTable table)).Nodup := by
    intro table
    by_cases htable : "tasks" = table
    · subst htable
      decide
    · rw [Registry.Lookups.ofTable, Dict.get?_cons, if_neg htable]
      exact List.nodup_nil
  have hnames : ((rows ds lookups 2 job.rows job.table s).1.toOption.map
      (columnTexts "reviewer")) = some ["Ana", "Ana"] := by decide +kernel
  obtain ⟨found, hfound, hcells⟩ :=
    labels_by_key ds people lookups hfinds hcolumns (some 60) jobs 0 2 job
  rw [hfound] at hnames
  exact ⟨⟨hfinds, hcolumns⟩, rfl, found, hfound, Option.some.inj hnames, hcells⟩

end Resolve

end TableExplorer
