import TableExplorer.Proofs.Resolve.Endless
import TableExplorer.Proofs.Resolve.Reference

/-!
# Clearing the cache while a resolution waits

A resolution asks for the labels that the cache lacks, and on the answer reads all labels of the
column from the cache. If the cache is cleared while it waits, the labels that it did not ask for,
because they were known, are gone: their identifiers stay as they are. Nothing else changes. Columns
that come later find the cache empty and ask for what they need.

Main result: `clear_while_waiting`.
-/

namespace TableExplorer.Resolve

variable {σ : Type} {T : LookupTables} {lookups : Registry.Lookups}

/-! ## Resolutions that are over -/

theorem visits_ended (ds : DataSource σ) (times : List Rat) (outcome : Except Failure (List Row))
    (s : Session σ) : visits ds times (.ended outcome) s = (.ended outcome, s) := by
  induction times with
  | nil => rfl
  | cons now times ih => exact ih

/-- However its visits are timed, a resolution that nobody disturbs ends as it does without
waits. -/
theorem rows_of_ended {ds : DataSource σ} {times : List Rat} {table : String} {found : List Row}
    {s : Session σ} {outcome : Except Failure (List Row)} (hendless : s.cache.timeToLive = none)
    (hended : (visits ds times (.ready (mappedColumns lookups table found) found) s).1 =
      .ended outcome) (now : Rat) :
    (rows ds lookups now found table s).1 = outcome := by
  let stage : Stage := .ready (mappedColumns lookups table found) found
  have hlonger : (visits ds (times ++ List.replicate stage.left now) stage s).1 =
      .ended outcome := by
    rw [visits_append, hended, visits_ended]
  have hlength : (times ++ List.replicate stage.left now).length =
      (List.replicate (times.length + stage.left) now).length := by simp
  rw [visits_congr ds hlength _ rfl ⟨hendless, hendless, rfl⟩,
    visits_alone ds now stage (Nat.le_add_left _ _)] at hlonger
  rw [rows_eq]
  exact Stage.ended.inj hlonger

/-! ## The labels of a column after the wait -/

theorem get?_labelsAfter (source : Registry.LookupSource) (missing : List String)
    (cache : LookupCache) (id : String) :
    Dict.get? (labelsAfter T source missing cache) id =
      (if id ∈ missing then Dict.get? (labelsOf source (T source)) id else none).or
        (Dict.get? (cache.heldLabels source.cacheKey) id) := by
  rw [labelsAfter, Dict.get?_merge _ (nodup_keys_labelsOf _ _), T.get?_labelsOf_answer]

theorem get?_labelsAfter_clear (source : Registry.LookupSource) (missing : List String)
    (cache : LookupCache) (id : String) :
    Dict.get? (labelsAfter T source missing cache.clear) id =
      if id ∈ missing then Dict.get? (labelsOf source (T source)) id else none := by
  rw [get?_labelsAfter]
  exact Option.or_none

/-- What was asked for is found alike, cleared or not. -/
theorem get?_labelsAfter_of_mem {source : Registry.LookupSource} {missing : List String}
    {cache : LookupCache} {name : String} {found rest} (hasks : (Stage.waiting name source missing
      found rest).Asks cache) {id : String} (hid : id ∈ missing) :
    Dict.get? (labelsAfter T source missing cache) id =
      Dict.get? (labelsAfter T source missing cache.clear) id := by
  have hmissing : missing = _ := hasks
  have hunknown : Dict.get? (cache.heldLabels source.cacheKey) id = none := by
    rw [hmissing, List.mem_filter] at hid
    simpa [Dict.contains] using hid.2
  rw [get?_labelsAfter, get?_labelsAfter_clear, hunknown, Option.or_none]

/-- A resolution that goes on alone after a wait substitutes what it reads in the column, and passes
the columns after it. -/
theorem resumed {ds : DataSource σ} (hfinds : FindsLabels ds T lookups) (name : String)
    {source : Registry.LookupSource} (hsource : source ∈ lookups.sources) {missing : List String}
    (hempty : "" ∉ missing) (found : List Row) {rest : Dict Registry.LookupSource}
    (hrest : ∀ p ∈ rest, p.2 ∈ lookups.sources) {times : List Rat}
    (htimes : rest.length < times.length) {s : Session σ} (hsound : Sound T lookups s.cache) :
    ∃ steps, Aligned T lookups steps rest ∧
      (visits ds times (.waiting name source missing found rest) s).1 =
        .ended (.ok ((found.map (substitute name (labelsAfter T source missing s.cache))).map
          (substituteAll steps))) := by
  cases times with
  | nil => cases htimes
  | cons now times =>
    have hfilled : Sound T lookups (filled T now source missing s.cache) :=
      hsound.mergeLabels hsource hempty now
    rw [visits_cons, visit_waiting hfinds now name hsource missing found rest hsound.endless]
    obtain ⟨halong, hasks⟩ := advance_along_start hfilled now hrest
      (found.map (substitute name (labelsAfter T source missing s.cache)))
    have hleft : (advance now rest (found.map (substitute name
        (labelsAfter T source missing s.cache))) (filled T now source missing s.cache)).1.left ≤
          times.length :=
      Nat.le_trans (left_advance _ _ _ _) (Nat.lt_succ_iff.1 htimes)
    exact ended_of_along hfinds hrest _ hleft hfilled halong hasks

/-! ## Cell by cell -/

theorem relabel_congr {a b : Labels} {v : Value}
    (h : ∀ id, v = .text id → Dict.get? a id = Dict.get? b id) : relabel a v = relabel b v := by
  cases v with
  | text id => simp only [relabel, h id rfl]
  | _ => rfl

theorem get?_between {steps steps' : Dict Labels} {name : String} {labels : Labels}
    (h : (Dict.keys (steps ++ (name, labels) :: steps')).Nodup) (column : String) :
    Dict.get? (steps ++ (name, labels) :: steps') column =
      if column = name then some labels
      else (Dict.get? steps column).or (Dict.get? steps' column) := by
  rw [Dict.get?_append, Dict.get?_cons]
  by_cases hname : column = name
  · subst hname
    have hfirst : Dict.get? steps column = none := by
      rw [Dict.get?_eq_none_iff]
      intro hmem
      rw [Dict.keys, List.map_append, List.nodup_append] at h
      exact h.2.2 column hmem column List.mem_cons_self rfl
    rw [hfirst, if_pos rfl, if_pos rfl, Option.none_or]
  · rw [if_neg hname, if_neg (Ne.symm hname)]

theorem Aligned.get?_eq {steps : Dict Labels} {columns : Dict Registry.LookupSource}
    (h : Aligned T lookups steps columns) {column : String}
    (hown : ∀ source, Dict.get? columns column = some source → lookups.Own source) :
    Dict.get? steps column = (Dict.get? columns column).map T.labels := by
  induction h with
  | nil => rfl
  | @cons step column' steps columns hstep _ ih =>
    obtain ⟨name, labels⟩ := step
    obtain ⟨_, source⟩ := column'
    obtain ⟨rfl, hlabels⟩ := hstep
    rw [Dict.get?_cons] at hown ⊢
    rw [Dict.get?_cons]
    dsimp only at hlabels hown ⊢
    by_cases hname : name = column
    · rw [if_pos hname, if_pos hname, Option.map_some, hlabels (hown source (if_pos hname))]
    · rw [if_neg hname, if_neg hname]
      rw [if_neg hname] at hown
      exact ih hown

theorem map_substituteAll_between (steps : Dict Labels) (name : String) (labels : Labels)
    (steps' : Dict Labels) (found : List Row) :
    ((found.map (substituteAll steps)).map (substitute name labels)).map (substituteAll steps') =
      found.map (substituteAll (steps ++ (name, labels) :: steps')) := by
  rw [List.map_map, List.map_map]
  exact List.map_congr_left fun row _ =>
    (substituteAll_append steps ((name, labels) :: steps') row).symm

theorem nodup_mappedColumns {table : String}
    (h : (Dict.keys (lookups.ofTable table)).Nodup) (found : List Row) :
    (Dict.keys (mappedColumns lookups table found)).Nodup := by
  cases found with
  | nil => exact List.nodup_nil
  | cons first rest => exact h.sublist (List.filter_sublist.map Prod.fst)

/-- Two runs that agree before and after a column differ in its cells alone, and there by what they
know of the identifiers. -/
theorem get?_between_eq {steps onwards onwards' : Dict Labels} {name : String}
    {labels labels' : Labels} {rest : Dict Registry.LookupSource}
    (hnodup : (Dict.keys (steps ++ (name, labels) :: onwards)).Nodup)
    (hnodup' : (Dict.keys (steps ++ (name, labels') :: onwards')).Nodup)
    (honwards : Aligned T lookups onwards rest) (honwards' : Aligned T lookups onwards' rest)
    (row : Row) {column : String} {value : Value} (hvalue : Dict.get? row column = some value)
    (hlabels : column = name → ∀ id, value = .text id →
      Dict.get? labels id = Dict.get? labels' id)
    (hown : ∀ other, Dict.get? rest column = some other → lookups.Own other) :
    Dict.get? (substituteAll (steps ++ (name, labels) :: onwards) row) column =
      Dict.get? (substituteAll (steps ++ (name, labels') :: onwards') row) column := by
  rw [get?_substituteAll hnodup, get?_substituteAll hnodup', hvalue, Option.map_some,
    Option.map_some, get?_between hnodup, get?_between hnodup']
  by_cases hname : column = name
  · rw [if_pos hname, if_pos hname, Option.getD_some, Option.getD_some,
      relabel_congr (hlabels hname)]
  · rw [if_neg hname, if_neg hname, honwards.get?_eq hown, honwards'.get?_eq hown]

/-- A row as a resolution leaves it (`whole`), and as it leaves it when the cache is cleared while it
waits for the missing labels of a column (`cut`). In that column the identifiers that it did not ask
for stay as they are, where they would have got the labels known before. Every other cell is the
same, unless its column is to come and has a source that shares its cache key with another one. -/
structure ClearedRow (lookups : Registry.Lookups) (name : String) (missing : List String)
    (rest : Dict Registry.LookupSource) (known : Labels) (row whole cut : Row) : Prop where
  keys_whole : Dict.keys whole = Dict.keys row
  keys_cut : Dict.keys cut = Dict.keys row
  forgotten : ∀ id, Dict.get? row name = some (.text id) → id ≠ "" → id ∉ missing →
    Dict.get? cut name = some (.text id) ∧
      Dict.get? whole name = some (relabel known (.text id))
  same : ∀ column value, Dict.get? row column = some value →
    (column = name → ∀ id, value = .text id → id ≠ "" → id ∈ missing) →
    (∀ other, Dict.get? rest column = some other → lookups.Own other) →
    Dict.get? cut column = Dict.get? whole column

/-- Whether the cache is cleared or not, what was asked for and the empty identifier are found
alike. -/
theorem get?_labelsAfter_eq {source : Registry.LookupSource} {missing : List String}
    {cache : LookupCache} (hsound : Sound T lookups cache) {name : String} {held rest}
    (hasks : (Stage.waiting name source missing held rest).Asks cache) {id : String}
    (hid : id ≠ "" → id ∈ missing) :
    Dict.get? (labelsAfter T source missing cache.clear) id =
      Dict.get? (labelsAfter T source missing cache) id := by
  by_cases hblank : id = ""
  · subst hblank
    rw [get?_labelsAfter, get?_labelsAfter, hsound.blank]
    rfl
  · exact (get?_labelsAfter_of_mem hasks (hid hblank)).symm

theorem clearedRow {source : Registry.LookupSource} {missing : List String}
    {cache : LookupCache} (hsound : Sound T lookups cache) {name : String} {held rest}
    (hasks : (Stage.waiting name source missing held rest).Asks cache)
    {steps onwards onwards' : Dict Labels} (honwards : Aligned T lookups onwards rest)
    (honwards' : Aligned T lookups onwards' rest)
    (hnodup : ∀ labels onwards, Aligned T lookups onwards rest →
      (Dict.keys (steps ++ (name, labels) :: onwards)).Nodup) (row : Row) :
    ClearedRow lookups name missing rest (cache.heldLabels source.cacheKey) row
      (substituteAll (steps ++ (name, labelsAfter T source missing cache) :: onwards) row)
      (substituteAll (steps ++ (name, labelsAfter T source missing cache.clear) :: onwards')
        row) := by
  constructor
  case keys_whole => exact keys_substituteAll _ _
  case keys_cut => exact keys_substituteAll _ _
  case forgotten =>
    intro id hvalue hblank hknown
    rw [get?_substituteAll (hnodup _ _ honwards'), get?_substituteAll (hnodup _ _ honwards),
      hvalue, get?_between (hnodup _ _ honwards'), get?_between (hnodup _ _ honwards),
      if_pos rfl, if_pos rfl]
    constructor
    · simp [relabel, get?_labelsAfter_clear, hknown]
    · simp [relabel, get?_labelsAfter, hknown]
  case same =>
    intro column value hvalue hasked hown
    exact get?_between_eq (hnodup _ _ honwards') (hnodup _ _ honwards) honwards' honwards row
      hvalue (fun hname id hid => get?_labelsAfter_eq hsound hasks (hasked hname id hid)) hown

/-- **Clearing the cache during a wait forgets what was known before it, and nothing else.** A
resolution starts from any cache without a time to live that earlier resolutions may have left, and
waits for the labels of a column when the cache is cleared. Row by row the outcome compares with the
one without the clear as `ClearedRow` says. If the cache knew no identifier of the column, and no
source of the columns to come shares its key with another one, the clear changes nothing. -/
theorem clear_while_waiting (ds : DataSource σ) (T : LookupTables) (lookups : Registry.Lookups)
    (hfinds : FindsLabels ds T lookups) (start : Rat) (s : Session σ)
    (hreached : Reached ds lookups none start s.cache) (table : String)
    (hcolumns : (Dict.keys (lookups.ofTable table)).Nodup) (found : List Row)
    (before after : List Rat) (name : String) (source : Registry.LookupSource)
    (missing : List String) (held : List Row) (rest : Dict Registry.LookupSource)
    (paused : Session σ)
    (hwait : visits ds before (.ready (mappedColumns lookups table found) found) s =
      (.waiting name source missing held rest, paused))
    (hafter : rest.length < after.length) (now : Rat) :
    let cleared : Session σ := { paused with cache := paused.cache.clear }
    ∃ whole cut : Row → Row,
      (rows ds lookups now found table s).1 = .ok (found.map whole) ∧
      (visits ds after (.waiting name source missing held rest) cleared).1 =
        .ended (.ok (found.map cut)) ∧
      (∀ row ∈ found, ClearedRow lookups name missing rest
        (paused.cache.heldLabels source.cacheKey) row (whole row) (cut row)) ∧
      (missing = distinctIds held name → (∀ p ∈ rest, lookups.Own p.2) →
        found.map cut = found.map whole) := by
  intro cleared
  have hsources := mem_sources_of_mappedColumns lookups table found
  have hsound := hreached.sound hfinds
  obtain ⟨hpaused, halong, hasks⟩ := along_visits hfinds before hsources
    (.ready _ found) hsound ⟨rfl, rfl⟩ trivial
  rw [hwait] at hpaused halong hasks
  obtain ⟨passed, steps, hpassed, hsteps, rfl⟩ := halong
  have hempty : "" ∉ missing := hasks.covers.1
  have hsource : source ∈ lookups.sources := hsources (name, source) (by simp [hpassed])
  have hrest : ∀ p ∈ rest, p.2 ∈ lookups.sources := by
    intro p hp
    exact hsources p (by simp [hpassed, hp])
  -- Both runs go on from the wait: one with the cache as it is, the other with an empty one.
  obtain ⟨onwards, honwards, hwhole⟩ := resumed hfinds name hsource hempty
    (found.map (substituteAll steps)) hrest hafter hpaused
  obtain ⟨onwards', honwards', hcut⟩ := resumed hfinds name hsource hempty
    (found.map (substituteAll steps)) hrest hafter (s := cleared) hpaused.clear
  have hjoined : visits ds (before ++ after) (.ready (mappedColumns lookups table found) found) s =
      visits ds after (.waiting name source missing (found.map (substituteAll steps)) rest)
        paused := by
    rw [visits_append, hwait]
  rw [← hjoined] at hwhole
  have hended := rows_of_ended hsound.endless hwhole now
  rw [map_substituteAll_between] at hended hcut
  have hnodup : ∀ labels onwards, Aligned T lookups onwards rest →
      (Dict.keys (steps ++ (name, labels) :: onwards)).Nodup := by
    intro labels onwards h
    have hkeys := nodup_mappedColumns hcolumns found
    rw [hpassed, Dict.keys, List.map_append, List.map_cons] at hkeys
    rw [Dict.keys, List.map_append, List.map_cons]
    rwa [show steps.map Prod.fst = passed.map Prod.fst from hsteps.keys_eq,
      show onwards.map Prod.fst = rest.map Prod.fst from h.keys_eq]
  refine ⟨_, _, hended, hcut, fun row _ => ?_, fun hall hown => ?_⟩
  · exact clearedRow hpaused hasks honwards honwards' hnodup row
  · rw [← map_substituteAll_between, ← map_substituteAll_between, honwards.eq_labels hown,
      honwards'.eq_labels hown]
    refine congrArg _ (map_substitute_congr (fun id hid => ?_) ?_)
    · exact get?_labelsAfter_eq hpaused hasks fun _ => hall ▸ hid
    · exact get?_labelsAfter_eq hpaused hasks fun hblank => absurd rfl hblank

/-- Two sellers. -/
def team : LookupTables := fun _ =>
  [[("id", .text "v1"), ("nome", .text "Ana")], [("id", .text "v2"), ("nome", .text "Bruno")]]

/-- The cache knows the first seller, and is cleared while the second is looked up: the first is not
named, though it would have been. -/
theorem clear_while_waiting_team :
    let lookups := Registry.lookups
    let ds := team.scheduled fun _ => none
    let column := "vendedorResponsavel"
    let s := (rows ds lookups 1 [[(column, .text "v1")]] "leads" { source := 0, cache := {} }).2
    let found : List Row := [[(column, .text "v1")], [(column, .text "v2")]]
    let paused := (visits ds [2] (.ready (mappedColumns lookups "leads" found) found) s).2
    let cleared : Session Nat := { paused with cache := paused.cache.clear }
    let stage : Stage := .waiting column Registry.seller ["v2"] found []
    (FindsLabels ds team lookups ∧ Reached ds lookups none 1 s.cache ∧
      (Dict.keys (lookups.ofTable "leads")).Nodup ∧
      visits ds [2] (.ready (mappedColumns lookups "leads" found) found) s = (stage, paused) ∧
      0 < [(3 : Rat)].length) ∧
    (visits ds [3] stage cleared).1 ≠ .ended (rows ds lookups 2 found "leads" s).1 ∧
    ∃ whole cut : Row → Row,
      (rows ds lookups 2 found "leads" s).1 = .ok (found.map whole) ∧
      (visits ds [3] stage cleared).1 = .ended (.ok (found.map cut)) ∧
      (∀ row ∈ found, ClearedRow lookups column ["v2"] []
        (paused.cache.heldLabels Registry.seller.cacheKey) row (whole row) (cut row)) ∧
      (["v2"] = distinctIds found column → (∀ p ∈ ([] : Dict Registry.LookupSource),
        lookups.Own p.2) → found.map cut = found.map whole) := by
  intro lookups ds column s found paused cleared stage
  have hfinds : FindsLabels ds team lookups := fun _ _ _ _ => rfl
  have hreached : Reached ds lookups none 1 s.cache :=
    .resolved (s := { source := 0, cache := _ }) _ _ (.fresh 1)
  have hcolumns : (Dict.keys (lookups.ofTable "leads")).Nodup := by decide
  have hwait : visits ds [2] (.ready (mappedColumns lookups "leads" found) found) s =
      (stage, paused) := rfl
  have hafter : 0 < [(3 : Rat)].length := by decide
  have hknown : Dict.get? (paused.cache.heldLabels Registry.seller.cacheKey) "v1" =
      some "Ana" := by decide +kernel
  obtain ⟨whole, cut, hwhole, hcut, hcells, hsame⟩ :=
    clear_while_waiting ds team lookups hfinds 1 s hreached "leads" hcolumns found [2] [3] column
      Registry.seller ["v2"] found [] paused hwait hafter 2
  refine ⟨⟨hfinds, hreached, hcolumns, hwait, hafter⟩, fun heq => ?_, whole, cut, hwhole, hcut,
    hcells, hsame⟩
  -- The first row keeps its identifier, and should have its label.
  rw [hwhole, hcut] at heq
  have hrow := (List.cons.inj (Except.ok.inj (Stage.ended.inj heq))).1
  obtain ⟨hkept, hlabelled⟩ :=
    (hcells _ List.mem_cons_self).forgotten "v1" rfl (by decide) (by decide)
  rw [hrow, hlabelled] at hkept
  simp [relabel, hknown] at hkept

end TableExplorer.Resolve
