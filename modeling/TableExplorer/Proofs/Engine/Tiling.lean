import TableExplorer.Proofs.Resolve.Hasty
import TableExplorer.Proofs.Resolve.Reference
import TableExplorer.Proofs.Sweep.Exactness

/-!
# Pages tile the export

Pages are windows of the caller's choice, each with a request of its own; an export sweeps its own
windows. Over a source that answers every window of a query with that window of one list, both give
the same rows: the list, with labels in place of identifiers.

That labels do not disturb this is the point of `rows_part`: whatever the cache holds, resolving any
part of the list does to each of its rows what resolving the whole list does.

Main result: `Engine.pages_tile_export`.
-/

namespace TableExplorer

variable {σ : Type}

def QueryState.atPage (q : QueryState) (page pageSize : Nat) (h : 0 < pageSize) : QueryState :=
  { q with page, pageSize, pageSize_pos := h }

theorem QueryState.pageRequest_atPage (mandatory : Registry.MandatoryFilters) (q : QueryState)
    (page : Nat) {pageSize : Nat} (h : 0 < pageSize) :
    (q.atPage page pageSize h).pageRequest mandatory =
      { q.exportRequest mandatory (page * pageSize) pageSize with countExact := true } := rfl

def SameColumns (rows : List Row) : Prop :=
  ∀ a ∈ rows, ∀ b ∈ rows, ∀ column, column ∈ Dict.keys a ↔ column ∈ Dict.keys b

/-- The source answers each window of a query with that window of the rows, with their number where
the count is asked for, and each lookup of labels from the rows of its source. -/
structure ServesQuery (ds : DataSource σ) (mandatory : Registry.MandatoryFilters)
    (lookups : Registry.Lookups) (q : QueryState) (rows : List Row) (T : Resolve.LookupTables) :
    Prop where
  windows : ∀ (start limit : Int) (countExact : Bool) (s : σ), 0 ≤ start → 0 < limit →
    ∃ response, (ds.query { q.exportRequest mandatory start limit with countExact } s).1 =
        .ok response ∧
      response.failure? = none ∧ response.rows = Sweep.slice rows start limit ∧
      (countExact = true → response.count = some rows.length)
  labels : ∀ source ∈ lookups.sources, ∀ ids s,
    (ds.lookup (Resolve.request source ids) s).1 = .ok (T.answer source ids)

/-! ## Resolving a part of the rows -/

namespace Resolve

/-- What a resolution without failures makes of a row. -/
def settled (timeToLive : Option Rat) (T : LookupTables) (columns : Dict Registry.LookupSource) :
    Row → Row :=
  if timeToLive.any fun ttl => decide (ttl < 0) then id
  else substituteAll (Dict.mapValues T.labels columns)

theorem presentColumns_congr (sources : Dict Registry.LookupSource) {a b : Row}
    (h : ∀ column, column ∈ Dict.keys a ↔ column ∈ Dict.keys b) :
    presentColumns sources a = presentColumns sources b := by
  refine List.filter_congr fun p _ => ?_
  rw [Bool.eq_iff_iff, Dict.contains_iff_mem_keys, Dict.contains_iff_mem_keys]
  exact h p.1

theorem rows_settled {ds : DataSource σ} {T : LookupTables} {lookups : Registry.Lookups}
    (hseparate : lookups.Separate)
    (hlabels : ∀ source ∈ lookups.sources, ∀ ids s,
      (ds.lookup (request source ids) s).1 = .ok (T.answer source ids))
    {timeToLive : Option Rat} {now : Rat} {s : Session σ}
    (hreached : Reached ds lookups timeToLive now s.cache) (table : String) (found : List Row) :
    (rows ds lookups now found table s).1 =
      .ok (found.map (settled timeToLive T (mappedColumns lookups table found))) := by
  have hserves : ServesLabels ds T lookups :=
    fun source hsource ids st => .inl (hlabels source hsource ids st)
  obtain ⟨httl, hfaithful⟩ := hreached.faithful hseparate hserves
  obtain ⟨hby, htrace⟩ := rows_trace ds lookups now found table s
  have hsources := mem_sources_of_mappedColumns lookups table found
  obtain ⟨-, -, ⟨steps, -, houtcome⟩, hall⟩ := htrace.spec hseparate hsources
    (fun x hx => hserves.served (hby x hx)) hfaithful
  by_cases hhasty : s.cache.Hasty
  · obtain ⟨ttl, hsome, hneg⟩ := hhasty
    have hid : settled timeToLive T (mappedColumns lookups table found) = id := by
      rw [settled, ← httl, hsome, Option.any_some, if_pos (decide_eq_true hneg)]
    rw [hid, List.map_id, houtcome,
      (htrace.hasty hreached.timely).2 ⟨ttl, hsome, hneg⟩ _ houtcome]
  · have hlasting : s.cache.Lasting := s.cache.not_hasty_iff.1 hhasty
    have hsubst : settled timeToLive T (mappedColumns lookups table found) =
        substituteAll (Dict.mapValues T.labels (mappedColumns lookups table found)) := by
      have hnever := hlasting.isExpired_self 0
      rw [LookupCache.isExpired_self, httl] at hnever
      rw [settled, hnever, if_neg Bool.false_ne_true]
    rw [hsubst]
    refine hall hlasting fun request f hx => ?_
    obtain ⟨p, hp, ids, answer, heq⟩ := htrace.lookups _ hx
    cases heq
    obtain ⟨st, hanswer⟩ := hby _ hx
    rw [hlabels p.2 (hsources p hp)] at hanswer
    cases hanswer

/-- **Parts of the rows are resolved as the whole is.** -/
theorem rows_part {ds : DataSource σ} {T : LookupTables} {lookups : Registry.Lookups}
    (hseparate : lookups.Separate)
    (hlabels : ∀ source ∈ lookups.sources, ∀ ids s,
      (ds.lookup (request source ids) s).1 = .ok (T.answer source ids))
    {timeToLive : Option Rat} {now : Rat} {s : Session σ}
    (hreached : Reached ds lookups timeToLive now s.cache) (table : String) {whole : List Row}
    (hsame : SameColumns whole) {part : List Row} (hpart : part ⊆ whole) :
    (rows ds lookups now part table s).1 =
      .ok (part.map (settled timeToLive T (mappedColumns lookups table whole))) := by
  rw [rows_settled hseparate hlabels hreached]
  cases part with
  | nil => rfl
  | cons first rest =>
    cases whole with
    | nil => exact absurd (hpart List.mem_cons_self) List.not_mem_nil
    | cons head tail =>
      have hcolumns : mappedColumns lookups table (first :: rest) =
          mappedColumns lookups table (head :: tail) :=
        presentColumns_congr _ (hsame _ (hpart List.mem_cons_self) _ List.mem_cons_self)
      rw [hcolumns]

end Resolve

/-! ## Windows that follow each other -/

theorem Sweep.slice_subset (rows : List Row) (start limit : Int) :
    slice rows start limit ⊆ rows :=
  fun _ h => List.mem_of_mem_drop (List.mem_of_mem_take h)

theorem Sweep.slice_page (rows : List Row) (page pageSize : Nat) :
    slice rows (page * pageSize) pageSize = (rows.drop (page * pageSize)).take pageSize := by
  rw [slice, ← Int.natCast_mul, Int.toNat_natCast, Int.toNat_natCast]

theorem Sweep.flatMap_slice (rows : List Row) (pages pageSize : Nat) :
    (List.range pages).flatMap (fun (p : Nat) => slice rows (p * pageSize) pageSize) =
      rows.take (pages * pageSize) := by
  induction pages with
  | zero => simp
  | succ pages ih =>
    rw [List.range_succ, List.flatMap_append, List.flatMap_singleton, ih, slice_page, Nat.succ_mul,
      List.take_add]

theorem le_pages_mul {pageSize : Nat} (h : 0 < pageSize) (n : Nat) :
    n ≤ (n + pageSize - 1) / pageSize * pageSize := by
  have hdiv := Nat.div_add_mod (n + pageSize - 1) pageSize
  have hmod := Nat.mod_lt (n + pageSize - 1) h
  rw [Nat.mul_comm] at hdiv
  omega

/-! ## Pages and export -/

namespace Engine

variable {e : Engine σ} {q : QueryState} {L : List Row} {T : Resolve.LookupTables}
  {timeToLive : Option Rat}

theorem page_settled (htable : q.table ≠ "")
    (hserves : ServesQuery e.source e.mandatory e.lookups q L T) (hsame : SameColumns L)
    (hseparate : e.lookups.Separate) {now : Rat} {s : Session σ}
    (hreached : Resolve.Reached e.source e.lookups timeToLive now s.cache) (page : Nat)
    {pageSize : Nat} (hsize : 0 < pageSize) :
    (e.executeQuery now (q.atPage page pageSize hsize) s).1 =
      { rows := (Sweep.slice L (page * pageSize) pageSize).map
          (Resolve.settled timeToLive T (Resolve.mappedColumns e.lookups q.table L)),
        count := L.length } := by
  obtain ⟨response, hanswer, hnone, hrows, hcount⟩ := hserves.windows (page * pageSize) pageSize
    true s.source (Int.mul_nonneg (by omega) (by omega)) (by omega)
  rw [executeQuery_outcome e now (q := q.atPage page pageSize hsize) htable,
    QueryState.pageRequest_atPage, concludePage, hanswer]
  simp only [hnone]
  have hpart : response.rows ⊆ L := hrows ▸ Sweep.slice_subset L _ _
  have hfound : ∀ st, (Resolve.rows e.source e.lookups now response.rows q.table
      { source := st, cache := s.cache }).1 = .ok (response.rows.map
        (Resolve.settled timeToLive T (Resolve.mappedColumns e.lookups q.table L))) := fun st =>
    Resolve.rows_part (s := { source := st, cache := s.cache }) hseparate hserves.labels hreached
      q.table hsame hpart
  show reported ((Resolve.rows e.source e.lookups now response.rows q.table _).1.map _) = _
  rw [hfound, hcount rfl, hrows]
  rfl

theorem export_settled (htable : q.table ≠ "")
    (hserves : ServesQuery e.source e.mandatory e.lookups q L T) (hsame : SameColumns L)
    (hseparate : e.lookups.Separate) {now : Rat} {s : Session σ}
    (hreached : Resolve.Reached e.source e.lookups timeToLive now s.cache) :
    (e.fetchAllForExport now q s).1 =
      { rows := (L.take 10000).map
          (Resolve.settled timeToLive T (Resolve.mappedColumns e.lookups q.table L)),
        count := (L.take 10000).length } := by
  obtain ⟨hby, htrace⟩ := Sweep.ofState_trace e.source e.mandatory {} (by decide)
    (by decide) q s.source
  have hcomplete := htrace.complete fun request answer hx => by
    obtain ⟨start, limit, answer', heq, hstart, hlimit, -⟩ :=
      htrace.windows (by decide) (by decide) (by decide) _ hx
    cases heq
    obtain ⟨st, hst⟩ := hby _ hx
    obtain ⟨response, hanswer, hnone, -⟩ := hserves.windows start limit false st hstart hlimit
    exact ⟨response, hst.symm.trans hanswer, hnone⟩
  have hwindows : Sweep.ServesWindows e.source (q.exportRequest e.mandatory) L :=
    fun start limit st hstart hlimit => by
      obtain ⟨response, hanswer, -, hrows, -⟩ := hserves.windows start limit false st hstart hlimit
      exact ⟨response, hanswer, fun _ => hrows⟩
  have hends := htrace.endsExactly (by decide) (fun x hx => hwindows.served (hby x hx)) (by decide)
    (by decide) (by decide) rfl
  unfold Sweep.EndsExactly at hends
  rw [hcomplete] at hends
  have hrows : (Sweep.ofState e.source.query e.mandatory {} q s.source).1.rows = L.take 10000 :=
    hends
  have hfound : ∀ st, (Resolve.rows e.source e.lookups now (L.take 10000) q.table
      { source := st, cache := s.cache }).1 = .ok ((L.take 10000).map
        (Resolve.settled timeToLive T (Resolve.mappedColumns e.lookups q.table L))) := fun st =>
    Resolve.rows_part (s := { source := st, cache := s.cache }) hseparate hserves.labels hreached
      q.table hsame (List.take_subset _ _)
  rw [fetchAllForExport_outcome e now htable, sweep_outcome, conclude, hcomplete, hrows, hfound]
  show ({ rows := (L.take 10000).map _, count := ((L.take 10000).map _).length } : QueryResult) = _
  rw [List.length_map]

/-- **Pages tile the export.** Over a source that never fails and answers each window of a query
with that window of `L`, the pages of any size, put together and cut at the cap, are the rows of the
export, whatever page the exported state shows and whatever each call finds in the cache. Every page
reports the number of all rows, and the export that of its own. The clock stands still during a call,
so no label runs out while another is looked up. -/
theorem pages_tile_export (e : Engine σ) (q : QueryState) (htable : q.table ≠ "") (L : List Row)
    (T : Resolve.LookupTables) (hserves : ServesQuery e.source e.mandatory e.lookups q L T)
    (hsame : SameColumns L) (hseparate : e.lookups.Separate) (timeToLive : Option Rat)
    (pageSize : Nat) (hsize : 0 < pageSize) (clock : Nat → Rat) (sessions : Nat → Session σ)
    (hsessions : ∀ p, Resolve.Reached e.source e.lookups timeToLive (clock p) (sessions p).cache)
    (now : Rat) (s : Session σ)
    (hreached : Resolve.Reached e.source e.lookups timeToLive now s.cache) :
    let page := fun p => (e.executeQuery (clock p) (q.atPage p pageSize hsize) (sessions p)).1
    let exported := (e.fetchAllForExport now q s).1
    let pages := (List.range ((L.length + pageSize - 1) / pageSize)).flatMap fun p => (page p).rows
    pages.take 10000 = exported.rows ∧
      (∀ p, (page p).count = L.length ∧ (page p).error = none) ∧
      exported.count = min (L.length : Int) 10000 ∧ exported.error = none := by
  intro page exported pages
  have hpage : ∀ p, page p = _ := fun p =>
    page_settled htable hserves hsame hseparate (hsessions p) p hsize
  have hexported : exported = _ := export_settled htable hserves hsame hseparate hreached
  refine ⟨?_, fun p => ?_, ?_, ?_⟩
  · simp only [pages, hpage, hexported]
    rw [← List.map_flatMap, Sweep.flatMap_slice, List.take_of_length_le (le_pages_mul hsize _),
      List.map_take]
  · rw [hpage]
    exact ⟨rfl, rfl⟩
  · rw [hexported]
    show ((L.take 10000).length : Int) = _
    rw [List.length_take]
    omega
  · rw [hexported]

/-- An engine over a source of fixed rows and fixed lookup rows. -/
def overFixed (rows : List Row) (T : Resolve.LookupTables) (lookups : Registry.Lookups) :
    Engine Unit where
  source :=
    { query := fun r s =>
        (.ok { rows := (r.range.map fun range => Sweep.slice rows range.start range.limit).getD rows
               count := if r.countExact then some rows.length else none }, s)
      describe := fun _ s => (.ok [], s)
      lookup := fun r s =>
        let source := { table := r.table, labelField := r.labelField, idField := r.idField }
        (.ok (T.answer source (r.ids.getD [])), s)
      listTables := fun s => (.ok [], s) }
  lookups := lookups

theorem servesQuery_overFixed (rows : List Row) (T : Resolve.LookupTables)
    (lookups : Registry.Lookups) (mandatory : Registry.MandatoryFilters) (q : QueryState) :
    ServesQuery (overFixed rows T lookups).source mandatory lookups q rows T where
  windows start limit countExact s _ _ := by
    refine ⟨_, rfl, rfl, ?_, fun hcount => if_pos hcount⟩
    show Sweep.slice rows start (RowRange.window start limit).limit = Sweep.slice rows start limit
    rw [RowRange.limit_window]
  labels _ _ _ _ := rfl

theorem pages_tile_export_sellers :
    let L : List Row := [[("owner", .text "7")], [("owner", .text "8")], [("owner", .text "9")]]
    let e := overFixed L Resolve.sellers [("leads", [("owner", Registry.seller)])]
    let q : QueryState := { table := "leads", page := 5 }
    let fresh : Session Unit := { source := (), cache := {} }
    let warm := (Resolve.rows e.source e.lookups 1 [[("owner", .text "8")]] "leads" fresh).2
    let sessions := fun (p : Nat) => if p = 0 then fresh else warm
    let page := fun p => (e.executeQuery 2 (q.atPage p 2 (by decide)) (sessions p)).1
    let exported := (e.fetchAllForExport 2 q warm).1
    (q.table ≠ "" ∧ ServesQuery e.source e.mandatory e.lookups q L Resolve.sellers ∧
      SameColumns L ∧ e.lookups.Separate ∧ 0 < 2 ∧
      (∀ p, Resolve.Reached e.source e.lookups none 2 (sessions p).cache) ∧
      Resolve.Reached e.source e.lookups none 2 warm.cache) ∧
    let pages := (List.range ((L.length + 2 - 1) / 2)).flatMap fun p => (page p).rows
    pages.take 10000 = exported.rows ∧
      (∀ p, (page p).count = L.length ∧ (page p).error = none) ∧
      exported.count = min (L.length : Int) 10000 ∧ exported.error = none := by
  intro L e q fresh warm sessions page exported
  have hserves : ServesQuery e.source e.mandatory e.lookups q L Resolve.sellers :=
    servesQuery_overFixed _ _ _ _ _
  have hsame : SameColumns L := by
    intro a ha b hb column
    have hkeys : ∀ row ∈ L, Dict.keys row = ["owner"] := by decide
    rw [hkeys a ha, hkeys b hb]
  have hseparate : e.lookups.Separate := by
    unfold Registry.Lookups.Separate
    decide
  have hfresh : Resolve.Reached e.source e.lookups none 1 fresh.cache := .fresh 1
  have hwarm : Resolve.Reached e.source e.lookups none 2 warm.cache :=
    .later (.resolved (s := fresh) [[("owner", .text "8")]] "leads" hfresh) (by decide)
  have hsessions : ∀ p, Resolve.Reached e.source e.lookups none 2 (sessions p).cache := by
    intro p
    by_cases hp : p = 0
    · rw [show sessions p = fresh from if_pos hp]
      exact .fresh 2
    · rw [show sessions p = warm from if_neg hp]
      exact hwarm
  have htable : q.table ≠ "" := by decide
  exact ⟨⟨htable, hserves, hsame, hseparate, by decide, hsessions, hwarm⟩,
    e.pages_tile_export q htable L Resolve.sellers hserves hsame hseparate none 2 (by decide)
      (fun _ => 2) sessions hsessions 2 warm hwarm⟩

end Engine

end TableExplorer
