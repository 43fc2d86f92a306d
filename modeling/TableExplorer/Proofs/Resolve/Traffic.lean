import TableExplorer.Proofs.Resolve.Clearing
import TableExplorer.Proofs.Resolve.Interleaving

/-!
# What resolutions ask their source

Resolutions that share a cache without a time to live ask for an identifier only until a lookup has
found it. Each lookup asks for identifiers of one column, in the order of the rows, and a column
that was resolved before does not change them: its labels went into other cells.

`Settled` relates the lookups made so far to the cache. It holds every identifier that one of them
found, whether its label says something or not, and each column keeps this (`ColumnTrace.settled`).

Main result: `no_id_asked_twice`.
-/

namespace TableExplorer.Resolve

variable {σ : Type} {lookups : Registry.Lookups}

/-! ## The identifiers of a column -/

/-- The texts of a column, row by row. -/
def columnTexts (column : String) (rows : List Row) : List String :=
  rows.filterMap fun row => (Dict.get? row column).bind Value.text?

/-- The texts of a column that are not empty, each where it is first seen. -/
def firstSeen (column : String) (rows : List Row) : List String :=
  ((columnTexts column rows).filter fun s => s ≠ "").eraseDups

/-- The texts seen after one more, the latest first. -/
def noteText (seen : List String) (s : String) : List String :=
  if s = "" ∨ s ∈ seen then seen else s :: seen

theorem foldl_noteId (column : String) (rows : List Row) (seen : List String) :
    rows.foldl (noteId column) seen = (columnTexts column rows).foldl noteText seen := by
  rw [columnTexts, List.foldl_filterMap]
  congr 1
  funext seen row
  unfold noteId
  cases Dict.get? row column with
  | none => rfl
  | some v => cases v <;> simp [Value.text?, noteText]

theorem foldl_noteText (texts seen : List String) :
    (texts.foldl noteText seen).reverse =
      seen.reverse ++ (texts.filter fun s => s ≠ "" ∧ s ∉ seen).eraseDups := by
  induction texts generalizing seen with
  | nil => simp
  | cons s texts ih =>
    rw [List.foldl_cons, ih, noteText]
    by_cases hskip : s = "" ∨ s ∈ seen
    · have hnot : ¬ (s ≠ "" ∧ s ∉ seen) := by tauto
      rw [if_pos hskip, List.filter_cons_of_neg (by simpa using hnot)]
    · have hnew : s ≠ "" ∧ s ∉ seen := not_or.1 hskip
      have hrest : (texts.filter fun t => t ≠ "" ∧ t ∉ s :: seen) =
          (texts.filter fun t => t ≠ "" ∧ t ∉ seen).filter fun t => !t == s := by
        rw [List.filter_filter]
        refine List.filter_congr fun t _ => ?_
        by_cases ht : t = s <;> simp [ht]
      rw [if_neg hskip, List.filter_cons_of_pos (by simpa using hnew), List.eraseDups_cons, hrest,
        List.reverse_cons, List.append_assoc, List.singleton_append]

theorem distinctIds_eq_firstSeen (rows : List Row) (column : String) :
    distinctIds rows column = firstSeen column rows := by
  rw [distinctIds_eq, foldl_noteId, foldl_noteText, firstSeen]
  simp

theorem mem_firstSeen {column id : String} {rows : List Row} :
    id ∈ firstSeen column rows ↔
      id ≠ "" ∧ ∃ row ∈ rows, Dict.get? row column = some (.text id) := by
  rw [← distinctIds_eq_firstSeen, mem_distinctIds]

theorem nodup_firstSeen (column : String) (rows : List Row) : (firstSeen column rows).Nodup := by
  have hkeys := Dict.nodup_keys_ofList
    (((columnTexts column rows).filter fun s => s ≠ "").map fun s => (s, ()))
  rw [Dict.keys_ofList, Dict.keys, List.map_map] at hkeys
  simpa [firstSeen, Function.comp_def] using hkeys

theorem firstSeen_map_substitute {name column : String} (hne : column ≠ name) (labels : Labels)
    (rows : List Row) :
    firstSeen column (rows.map (substitute name labels)) = firstSeen column rows := by
  have htexts : columnTexts column (rows.map (substitute name labels)) =
      columnTexts column rows := by
    rw [columnTexts, List.filterMap_map]
    congr 1
    funext row
    show (Dict.get? (substitute name labels row) column).bind Value.text? = _
    rw [get?_substitute, if_neg hne, Option.map_id, id]
  rw [firstSeen, htexts, firstSeen]

/-! ## Lookups with their answers -/

/-- A lookup of labels for a column: what was asked, and what was answered. -/
structure Ask where
  column : String
  source : Registry.LookupSource
  ids : List String
  answer : Except Failure (List Row)

namespace Ask

/-- The call that it is. -/
def exchange (a : Ask) : Exchange := .lookup (request a.source a.ids) a.answer

/-- The mapped column that it is for. -/
def place (a : Ask) : String × Registry.LookupSource := (a.column, a.source)

/-- What an answer finds is not asked for again under the same cache key. -/
def Spares (earlier later : Ask) : Prop :=
  earlier.source.cacheKey = later.source.cacheKey →
    ∀ fetched, earlier.answer = .ok fetched → ∀ row ∈ fetched, idIn earlier.source row ∉ later.ids

end Ask

/-! ## What the cache holds of them -/

/-- A cache without a time to live, after some lookups: it holds all that they found, and none of
them asked for what another had found. -/
structure Settled (past : List Ask) (cache : LookupCache) : Prop where
  endless : cache.timeToLive = none
  held : ∀ a ∈ past, ∀ fetched, a.answer = .ok fetched → ∀ row ∈ fetched,
    Dict.contains (cache.heldLabels a.source.cacheKey) (idIn a.source row)
  spared : past.Pairwise Ask.Spares

theorem settled_nil : Settled [] {} := ⟨rfl, nofun, .nil⟩

theorem Settled.snoc {past : List Ask} {cache cache' : LookupCache} (h : Settled past cache)
    (a : Ask) (hids : ∀ id ∈ a.ids,
      Dict.contains (cache.heldLabels a.source.cacheKey) id = false)
    (hendless : cache'.timeToLive = none) (hgrows : Grows cache cache')
    (hfound : ∀ fetched, a.answer = .ok fetched → ∀ row ∈ fetched,
      Dict.contains (cache'.heldLabels a.source.cacheKey) (idIn a.source row)) :
    Settled (past ++ [a]) cache' := by
  constructor
  case endless => exact hendless
  case held =>
    intro b hb fetched hanswer row hrow
    rcases List.mem_append.1 hb with hb | hb
    · exact hgrows _ _ (h.held b hb fetched hanswer row hrow)
    · cases List.mem_singleton.1 hb
      exact hfound fetched hanswer row hrow
  case spared =>
    rw [List.pairwise_append]
    refine ⟨h.spared, List.pairwise_singleton _ _, fun b hb c hc => ?_⟩
    cases List.mem_singleton.1 hc
    intro hkey fetched hanswer row hrow hasked
    have hheld := h.held b hb fetched hanswer row hrow
    rw [hkey, hids _ hasked] at hheld
    cases hheld

theorem contains_mergeLabels (cache : LookupCache) (now : Rat) (source : Registry.LookupSource)
    (fetched : List Row) {row : Row} (hrow : row ∈ fetched) :
    Dict.contains ((cache.mergeLabels now source.cacheKey (labelsOf source fetched)).heldLabels
      source.cacheKey) (idIn source row) := by
  rw [LookupCache.heldLabels_mergeLabels, if_pos rfl, Dict.contains_iff_mem_keys,
    Dict.mem_keys_merge, labelsOf_eq, Dict.keys_ofList, List.mem_eraseDups]
  exact .inr (Dict.mem_keys_of_mem (List.mem_map_of_mem hrow))

/-- The lookups of a resolution: for each column at most one, in the order of the columns, each for
some of the identifiers that the column has, in their order. -/
structure Orderly (columns : Dict Registry.LookupSource) (rows : List Row) (asks : List Ask) :
    Prop where
  places : (asks.map Ask.place).Sublist columns
  ids : ∀ a ∈ asks, a.ids ≠ [] ∧ a.ids.Sublist (firstSeen a.column rows)

/-- **A column keeps what is settled.** It makes at most one lookup, and leaves the rows with labels
in its own cells. -/
theorem ColumnTrace.settled {now : Rat} {name : String} {source : Registry.LookupSource}
    {rows : List Row} {cache cache' : LookupCache} {calls : List Exchange}
    {outcome : Except Failure (List Row)}
    (h : ColumnTrace now name source rows cache calls outcome cache') {past : List Ask}
    (hpast : Settled past cache) :
    ∃ asks : List Ask, calls = asks.map Ask.exchange ∧ Orderly [(name, source)] rows asks ∧
      Settled (past ++ asks) cache' ∧
      ∀ rows', outcome = .ok rows' → ∃ labels, rows' = rows.map (substitute name labels) := by
  have hidle : Orderly [(name, source)] rows [] := ⟨List.nil_sublist _, nofun⟩
  -- A lookup asks for the identifiers that the cache does not hold.
  have hasked : ∀ {missing : List String} {cleaned : LookupCache}
      (answer : Except Failure (List Row)), missing ≠ [] →
      pending now source (distinctIds rows name) cache = (missing, cleaned) →
      cleaned = cache ∧ Orderly [(name, source)] rows [⟨name, source, missing, answer⟩] ∧
        ∀ id ∈ missing, Dict.contains (cache.heldLabels source.cacheKey) id = false := by
    intro missing cleaned answer hmissing hpending
    rw [pending_endless hpast.endless, distinctIds_eq_firstSeen] at hpending
    cases hpending
    refine ⟨rfl, ⟨List.Sublist.refl _, fun a ha => ?_⟩, fun id hid => ?_⟩
    · cases List.mem_singleton.1 ha
      exact ⟨hmissing, List.filter_sublist⟩
    · simpa using (List.mem_filter.1 hid).2
  cases h with
  | vacant _ =>
    refine ⟨[], rfl, hidle, by rwa [List.append_nil], fun rows' hrows => ⟨[], ?_⟩⟩
    cases hrows
    rw [List.map_congr_left fun row _ => substitute_nil name row, List.map_id']
  | known _ hpending =>
    rw [pending_endless hpast.endless] at hpending
    obtain ⟨-, rfl⟩ := Prod.mk.inj hpending
    rw [absorb_endless hpast.endless]
    refine ⟨[], rfl, hidle, by rwa [List.append_nil], fun rows' hrows => ?_⟩
    exact ⟨_, (Except.ok.inj hrows).symm⟩
  | @found missing cleaned fetched _ hmissing hpending =>
    obtain ⟨rfl, horderly, hnew⟩ := hasked (.ok fetched) hmissing hpending
    rw [absorb_endless hpast.endless]
    refine ⟨_, rfl, horderly, ?_, fun rows' hrows => ⟨_, (Except.ok.inj hrows).symm⟩⟩
    refine hpast.snoc _ hnew hpast.endless (grows_mergeLabels _ _ _ _) ?_
    intro _ hanswer row hrow
    cases hanswer
    exact contains_mergeLabels _ now source fetched hrow
  | @passed missing cleaned f _ hmissing hpending _ =>
    obtain ⟨rfl, horderly, hnew⟩ := hasked (.error f) hmissing hpending
    rw [absorb_endless hpast.endless]
    refine ⟨_, rfl, horderly, ?_, fun rows' hrows => ⟨_, (Except.ok.inj hrows).symm⟩⟩
    exact hpast.snoc _ hnew hpast.endless (fun _ _ hheld => hheld) nofun
  | @failed missing cleaned f _ hmissing hpending _ =>
    obtain ⟨rfl, horderly, hnew⟩ := hasked (.error f) hmissing hpending
    exact ⟨_, rfl, horderly, hpast.snoc _ hnew hpast.endless (fun _ _ hheld => hheld) nofun, nofun⟩

/-- **A resolution keeps what is settled.** -/
theorem Trace.settled {now : Rat} {columns : Dict Registry.LookupSource} {rows : List Row}
    {cache cache' : LookupCache} {calls : List Exchange} {outcome : Except Failure (List Row)}
    (h : Trace now columns rows cache calls outcome cache')
    (hcolumns : (Dict.keys columns).Nodup) {past : List Ask} (hpast : Settled past cache) :
    ∃ asks : List Ask, calls = asks.map Ask.exchange ∧ Orderly columns rows asks ∧
      Settled (past ++ asks) cache' := by
  induction h generalizing past with
  | done => exact ⟨[], rfl, ⟨List.nil_sublist _, nofun⟩, by rwa [List.append_nil]⟩
  | failed hcolumn =>
    obtain ⟨asks, hcalls, horderly, hsettled, -⟩ := hcolumn.settled hpast
    refine ⟨asks, hcalls, ⟨horderly.places.trans ?_, horderly.ids⟩, hsettled⟩
    exact List.Sublist.cons_cons _ (List.nil_sublist _)
  | @step name source rest rows rows' _ _ _ _ _ _ hcolumn _ ih =>
    rw [Dict.keys_cons, List.nodup_cons] at hcolumns
    obtain ⟨asks, rfl, horderly, hsettled, hrows⟩ := hcolumn.settled hpast
    obtain ⟨labels, rfl⟩ := hrows _ rfl
    obtain ⟨later, rfl, horderly', hsettled'⟩ := ih hcolumns.2 hsettled
    refine ⟨asks ++ later, List.map_append.symm, ⟨?_, fun a ha => ?_⟩, ?_⟩
    · rw [List.map_append]
      exact horderly.places.append horderly'.places
    · rcases List.mem_append.1 ha with ha | ha
      · exact horderly.ids a ha
      · -- Another column has the same identifiers as before.
        have hplace : a.place ∈ rest := horderly'.places.subset (List.mem_map_of_mem ha)
        have hne : a.column ≠ name := by
          rintro rfl
          exact hcolumns.1 (Dict.mem_keys_of_mem hplace)
        obtain ⟨hids, hsub⟩ := horderly'.ids a ha
        rw [firstSeen_map_substitute hne] at hsub
        exact ⟨hids, hsub⟩
    · rwa [← List.append_assoc]

/-! ## Resolutions one after the other -/

/-- The calls of each of some jobs that share a session, done at these times. -/
def traffic (ds : DataSource σ) (lookups : Registry.Lookups) :
    List (Rat × Job) → Session σ → List (List Exchange)
  | [], _ => []
  | (now, job) :: jobs, s =>
    calls ds lookups now job.rows job.table s ::
      traffic ds lookups jobs (rows ds lookups now job.rows job.table s).2

theorem traffic_settled (ds : DataSource σ) {lookups : Registry.Lookups}
    (hcolumns : ∀ table, (Dict.keys (lookups.ofTable table)).Nodup) (jobs : List (Rat × Job))
    (s : Session σ) {past : List Ask} (hpast : Settled past s.cache) :
    ∃ asks : List (List Ask),
      traffic ds lookups jobs s = asks.map (List.map Ask.exchange) ∧
      List.Forall₂ (fun job => Orderly (job.2.columns lookups) job.2.rows) jobs asks ∧
      (past ++ asks.flatten).Pairwise Ask.Spares := by
  induction jobs generalizing s past with
  | nil => exact ⟨[], rfl, .nil, by rw [List.flatten_nil, List.append_nil]; exact hpast.spared⟩
  | cons timed jobs ih =>
    obtain ⟨now, job⟩ := timed
    obtain ⟨-, htrace⟩ := rows_trace ds lookups now job.rows job.table s
    obtain ⟨asks, hcalls, horderly, hsettled⟩ :=
      htrace.settled (nodup_mappedColumns (hcolumns job.table) job.rows) hpast
    obtain ⟨later, htraffic, horderly', hspared⟩ := ih _ hsettled
    refine ⟨asks :: later, ?_, .cons horderly horderly', ?_⟩
    · rw [traffic, hcalls, htraffic, List.map_cons]
    · rwa [List.flatten_cons, ← List.append_assoc]

/-- **No lookup asks for an identifier twice.** Any resolutions one after the other, on any data
source, share a cache without a time to live that is empty at first. Each looks up labels for some
of the mapped columns that its first row has, once for each and in their order, and so not at all if
there are no rows or no columns are mapped. A lookup asks for some of the texts that the column has
and that are not empty, in the order in which they are first seen, and for none that an earlier
lookup under the same cache key has found a row of. -/
theorem no_id_asked_twice (ds : DataSource σ) (lookups : Registry.Lookups)
    (hcolumns : ∀ table, (Dict.keys (lookups.ofTable table)).Nodup) (jobs : List (Rat × Job))
    (source : σ) :
    ∃ asks : List (List Ask),
      traffic ds lookups jobs { source, cache := {} } = asks.map (List.map Ask.exchange) ∧
      List.Forall₂ (fun (_, job) asks =>
        (asks.map Ask.place).Sublist (mappedColumns lookups job.table job.rows) ∧
        (asks.map Ask.column).Nodup ∧
        (job.rows = [] ∨ lookups.ofTable job.table = [] → asks = []) ∧
        ∀ a ∈ asks, a.ids ≠ [] ∧ a.ids.Nodup ∧ a.ids.Sublist (firstSeen a.column job.rows))
        jobs asks ∧
      asks.flatten.Pairwise Ask.Spares := by
  obtain ⟨asks, htraffic, horderly, hspared⟩ :=
    traffic_settled ds hcolumns jobs { source, cache := {} } settled_nil
  refine ⟨asks, htraffic, horderly.imp fun (_, job) asks h => ⟨h.places, ?_, fun hidle => ?_, ?_⟩,
    hspared⟩
  · have hkeys := (nodup_mappedColumns (hcolumns job.table) job.rows).sublist
      (h.places.map Prod.fst)
    rwa [List.map_map] at hkeys
  · have hnone : mappedColumns lookups job.table job.rows = [] := by
      rcases hidle with hrows | htable
      · rw [hrows]
        rfl
      · cases job.rows with
        | nil => rfl
        | cons first rest => rw [mappedColumns, htable, presentColumns, List.filter_nil]
    have hplaces := h.places
    rw [show job.columns lookups = [] from hnone, List.sublist_nil, List.map_eq_nil_iff] at hplaces
    exact hplaces
  · intro a ha
    obtain ⟨hids, hsub⟩ := h.ids a ha
    exact ⟨hids, (nodup_firstSeen a.column job.rows).sublist hsub, hsub⟩

/-- The second resolution asks for the second seller alone, and the third for an identifier that
nobody has, in a column of another table with the same labels. -/
theorem no_id_asked_twice_team :
    let ds := team.scheduled fun _ => none
    let jobs : List (Rat × Job) := [
      (1, ⟨"leads", [[("vendedorResponsavel", .text "v1")]]⟩),
      (2, ⟨"leads", [[("vendedorResponsavel", .text "v2")], [("vendedorResponsavel", .text "v1")],
        [("vendedorResponsavel", .text "v2")]]⟩),
      (3, ⟨"agendamento", [[("vendedor", .text "v2")], [("vendedor", .text "v9")]]⟩)]
    (∀ table, (Dict.keys (Registry.lookups.ofTable table)).Nodup) ∧
    traffic ds Registry.lookups jobs { source := 0, cache := {} } =
      [["v1"], ["v2"], ["v9"]].map (fun ids =>
        [.lookup (request Registry.seller ids) (.ok (team.answer Registry.seller ids))]) ∧
    ∃ asks : List (List Ask),
      traffic ds Registry.lookups jobs { source := 0, cache := {} } =
        asks.map (List.map Ask.exchange) ∧
      List.Forall₂ (fun (_, job) asks =>
        (asks.map Ask.place).Sublist (mappedColumns Registry.lookups job.table job.rows) ∧
        (asks.map Ask.column).Nodup ∧
        (job.rows = [] ∨ Registry.lookups.ofTable job.table = [] → asks = []) ∧
        ∀ a ∈ asks, a.ids ≠ [] ∧ a.ids.Nodup ∧ a.ids.Sublist (firstSeen a.column job.rows))
        jobs asks ∧
      asks.flatten.Pairwise Ask.Spares := by
  intro ds jobs
  have hmapped : ∀ p ∈ Registry.lookups, (Dict.keys p.2).Nodup := by decide
  have hcolumns : ∀ table, (Dict.keys (Registry.lookups.ofTable table)).Nodup := by
    intro table
    unfold Registry.Lookups.ofTable
    cases hget : Dict.get? Registry.lookups table with
    | none => exact List.nodup_nil
    | some columns => exact hmapped _ (Dict.mem_of_get? hget)
  exact ⟨hcolumns, rfl, no_id_asked_twice ds Registry.lookups hcolumns jobs 0⟩

end TableExplorer.Resolve
