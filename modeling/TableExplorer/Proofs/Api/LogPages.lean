import TableExplorer.Proofs.Api.Handling
import TableExplorer.Proofs.Api.ListingRequests
import TableExplorer.Proofs.Store.Windows

/-!
# Reading the log page by page

A listing of the log is shown in pages, each by a request of its own. The pages and the total come
from one selection of the entries: a page is a window of the sorted selection, and the total counts
it. A request for a page changes nothing, not even the log, so a client that asks for one page after
the other until one is empty has seen every entry of the selection once, the latest first, and as
many as each of the answers told.

The store matches no pattern above a certain length. A listing by a longer beginning of the path is
refused as soon as there is an entry of its hours, whatever page is asked for.

Main result: `log_read_through`.
-/

namespace TableExplorer.RequestLog.Selection

variable (s : Selection) (now : Int) (entries : List Entry)

theorem perm_list : (s.list now entries).Perm (entries.filter (s.includes now)) :=
  (List.mergeSort_perm _ _).trans ((List.reverse_perm entries).filter _)

theorem mem_list {e : Entry} :
    e ∈ s.list now entries ↔ e ∈ entries ∧ s.includes now e = true := by
  rw [(perm_list s now entries).mem_iff, List.mem_filter]

theorem length_list : (s.list now entries).length = s.count now entries := by
  rw [(perm_list s now entries).length_eq, count, List.countP_eq_length_filter]

/-- The latest entries come first. -/
theorem pairwise_list : (s.list now entries).Pairwise fun a b => b.time ≤ a.time := by
  have hsorted : (s.list now entries).Pairwise fun a b => decide (b.time ≤ a.time) = true :=
    List.pairwise_mergeSort (fun a b c hab hbc => by simp at hab hbc ⊢; omega)
      (fun a b => by simp; omega) _
  exact hsorted.imp of_decide_eq_true

/-- A listing is refused if its pattern is too long and there is an entry to match it with. -/
theorem isRefused_iff :
    s.isRefused now entries = true ↔ ∃ start, s.pathStart = some start ∧
      Store.maxPatternSize < (start ++ "%").utf8ByteSize ∧
        ∃ e ∈ entries, s.isRecent now e = true := by
  cases hstart : s.pathStart with
  | none => simp [isRefused, hstart]
  | some start =>
    have hempty : Store.maxPatternSize < (start ++ "%").utf8ByteSize → start.isEmpty = false := by
      intro hlong
      by_contra h
      rw [Bool.not_eq_false, String.isEmpty_iff] at h
      subst h
      exact absurd hlong (by decide)
    simp only [isRefused, hstart, Bool.and_eq_true, Bool.not_eq_true', decide_eq_true_eq,
      List.any_eq_true, Option.some.injEq, exists_eq_left']
    constructor
    · rintro ⟨⟨-, hlong⟩, hrecent⟩
      exact ⟨hlong, hrecent⟩
    · rintro ⟨hlong, hrecent⟩
      exact ⟨⟨hempty hlong, hlong⟩, hrecent⟩

end TableExplorer.RequestLog.Selection

namespace TableExplorer.Api

variable {f : Framework} {m : Moment} {r : HttpRequest} {s : State} {l : Listing}
  {entries : List RequestLog.Entry}

/-! ## Answers -/

/-- An answer shows entries, and tells how many there are in all. -/
def HttpResponse.ShowsEntries (response : HttpResponse) (documents : List Value) (total : Nat) :
    Prop :=
  response.status = 200 ∧ response.body = .document (.list documents) ∧
    Dict.get? response.headers "x-total-count" = some (Nat.repr total)

theorem finiteOnly_entryDocument (e : RequestLog.Entry) :
    finiteOnly (entryDocument e) = entryDocument e := by
  have hoptional : ∀ text : Option String, finiteOnly (optionalText text) = optionalText text := by
    intro text
    cases text <;> rfl
  simp [entryDocument, finiteOnly, finiteFields, hoptional]

theorem finiteMembers_entryDocuments (page : List RequestLog.Entry) :
    finiteMembers (page.map entryDocument) = page.map entryDocument := by
  induction page with
  | nil => rfl
  | cons e page ih => rw [List.map_cons, finiteMembers, finiteOnly_entryDocument, ih]

theorem AsksListing.isLogged (hasks : AsksListing r l) (hpath : f.KeepsPath r) :
    isLogged (f.addressPath r) = false := by
  have hplain : r.IsPlain := by
    have hall : ("/api/logs/".toList.all fun c => !rereadCharacters.contains c) = true := by decide
    rw [HttpRequest.IsPlain, hasks.path]
    intro c hc
    simpa using List.all_eq_true.1 hall c hc
  rw [hpath hplain, hasks.path]
  decide +kernel

/-- A request for a listing gets what the log answers, as it is. -/
theorem handle_asked (hasks : AsksListing r l) :
    (handle f m r s).1 = (listEntries l m.time s.logs).response := by
  have hmethod : r.method ≠ "HEAD" := by
    rw [hasks.method]
    decide
  rw [handle_fst, if_neg hmethod, respond_of_alwaysSent hasks.route rfl]
  simp only [Endpoint.run, answerListing, hasks.params]

/-- A request for a listing is answered with its page and the number of its entries. -/
theorem handle_listing (hasks : AsksListing r l) (hlog : s.logs.entries = some entries)
    (hmatches : l.selection.isRefused m.time entries = false) (hfits : Store.fits l.offset = true) :
    (handle f m r s).1.ShowsEntries
      ((l.selection.page m.time l.offset.toNat l.limit.toNat entries).map entryDocument)
      (l.selection.count m.time entries) := by
  rw [handle_asked hasks, listEntries, hlog]
  simp only [hfits, hmatches, Bool.false_eq_true, if_true, if_false, Outcome.response]
  refine ⟨rfl, ?_, rfl⟩
  simp only [HttpResponse.withHeader, HttpResponse.json, finiteOnly, finiteMembers_entryDocuments]

/-- The answer to a request for a listing that the store refuses. -/
def patternTooComplex : HttpResponse :=
  .refusal 500 "Error fetching logs: (sqlite3.OperationalError) LIKE or GLOB pattern too complex"

theorem handle_refused (hasks : AsksListing r l) (hlog : s.logs.entries = some entries)
    (hrefused : l.selection.isRefused m.time entries = true)
    (hfits : Store.fits l.offset = true) : (handle f m r s).1 = patternTooComplex := by
  rw [handle_asked hasks, listEntries, hlog]
  simp only [hfits, hrefused, if_true, Outcome.response, patternTooComplex]

theorem exists_answer_listEntries (l : Listing) (now : Int) (logs : RequestLog.Table) :
    ∃ response, listEntries l now logs = .answer response := by
  unfold listEntries
  repeat' split
  all_goals exact ⟨_, rfl⟩

theorem handle_listing_snd (hasks : AsksListing r l) (hpath : f.KeepsPath r) :
    (handle f m r s).2 = s := by
  obtain ⟨response, hanswer⟩ := exists_answer_listEntries l m.time s.logs
  have hrun : respond f m r s = (.answer response, s) := by
    rw [respond_of_alwaysSent hasks.route rfl]
    simp only [Endpoint.run, answerListing, hasks.params, hanswer]
  rw [handle_snd, hrun, entryOf, hasks.isLogged hpath]
  rfl

/-! ## Reading on -/

/-- What a client is shown that asks for one page after the other, from a number on, until a page
is empty. -/
inductive ReadsThrough (f : Framework) (m : Moment) (requests : Nat → HttpRequest) :
    Nat → State → List Value → Prop
  | done {k : Nat} {s : State} {total : Nat}
    (hpage : (handle f m (requests k) s).1.ShowsEntries [] total) :
    ReadsThrough f m requests k s []
  | more {k : Nat} {s : State} {document : Value} {documents rest : List Value} {total : Nat}
    (hpage : (handle f m (requests k) s).1.ShowsEntries (document :: documents) total)
    (hrest : ReadsThrough f m requests (k + 1) (handle f m (requests k) s).2 rest) :
    ReadsThrough f m requests k s (document :: documents ++ rest)

theorem HttpResponse.ShowsEntries.unique {response : HttpResponse} {xs ys : List Value}
    {n k : Nat} (hxs : response.ShowsEntries xs n) (hys : response.ShowsEntries ys k) :
    xs = ys := by
  obtain ⟨-, hxs, -⟩ := hxs
  obtain ⟨-, hys, -⟩ := hys
  rw [hxs] at hys
  cases hys
  rfl

theorem ReadsThrough.unique {requests : Nat → HttpRequest} {k : Nat} {xs ys : List Value}
    (hxs : ReadsThrough f m requests k s xs) (hys : ReadsThrough f m requests k s ys) :
    xs = ys := by
  induction hxs generalizing ys with
  | done hpage =>
    cases hys with
    | done => rfl
    | more hother => exact absurd (hpage.unique hother) (by simp)
  | more hpage _ ih =>
    cases hys with
    | done hother => exact absurd (hpage.unique hother) (by simp)
    | more hother hrest => rw [hpage.unique hother, ih hrest]

section Pages

variable {requests : Nat → HttpRequest}
  (hasks : ∀ k : Nat, Store.fits (k * l.limit) = true →
    AsksListing (requests k) { l with offset := k * l.limit })

include hasks

theorem one_le_limit : 1 ≤ l.limit :=
  (Listing.inBounds_of_ofParams (hasks 0 (by simp [Store.fits]; decide)).params).one_le_limit

/-- The page of a number is what stands in the listing from there on, up to the limit. -/
theorem handle_page (f : Framework) (hlog : s.logs.entries = some entries)
    (hmatches : l.selection.isRefused m.time entries = false) (k : Nat)
    (hfits : Store.fits (k * l.limit) = true) :
    (handle f m (requests k) s).1.ShowsEntries
      ((((l.selection.list m.time entries).drop (k * l.limit.toNat)).take l.limit.toNat).map
        entryDocument)
      (l.selection.count m.time entries) := by
  have hlimit := one_le_limit hasks
  have hoffset : (k * l.limit).toNat = k * l.limit.toNat := by
    rw [Int.toNat_mul (by omega) (by omega), Int.toNat_natCast]
  rw [← hoffset]
  exact handle_listing (hasks k hfits) hlog hmatches hfits

/-- A listing can be read to its end from every page on, if the offsets can be held. -/
theorem readsThrough_drop (hpaths : ∀ k, f.KeepsPath (requests k))
    (hlog : s.logs.entries = some entries)
    (hmatches : l.selection.isRefused m.time entries = false)
    (hfits : Store.fits (l.selection.count m.time entries + l.limit) = true) (k : Nat)
    (hk : k * l.limit ≤ l.selection.count m.time entries + l.limit) :
    ReadsThrough f m requests k s
      (((l.selection.list m.time entries).drop (k * l.limit.toNat)).map entryDocument) := by
  have hlimit := one_le_limit hasks
  obtain ⟨size, hsize⟩ := Int.eq_ofNat_of_zero_le (show 0 ≤ l.limit by omega)
  have hpages := fun k hfits => handle_page (s := s) hasks f hlog hmatches k hfits
  have hsame := fun k hfits => handle_listing_snd (m := m) (s := s) (hasks k hfits) (hpaths k)
  rw [← RequestLog.Selection.length_list] at hfits hk
  generalize hwhole : l.selection.list m.time entries = whole at *
  simp only [hsize, Int.toNat_natCast] at *
  -- what is left of the listing gets less with every page that is not empty
  induction hleft : whole.length - k * size using Nat.strongRecOn generalizing k with
  | _ left ih =>
    have hoffset : Store.fits (k * size) = true := by
      have hhigh := of_decide_eq_true ((Bool.and_eq_true _ _).mp hfits).2
      exact Store.fits_of_nonneg (by omega) (by omega)
    have hshows := hpages k hoffset
    cases hpage : (whole.drop (k * size)).take size with
    | nil =>
      have hend : whole.drop (k * size) = [] :=
        (List.take_eq_nil_iff.1 hpage).resolve_left (by omega)
      rw [hpage] at hshows
      rw [hend]
      exact .done hshows
    | cons e page =>
      rw [hpage, List.map_cons] at hshows
      have hinside : k * size < whole.length := by
        by_contra hout
        rw [List.drop_eq_nil_of_le (by omega)] at hpage
        simp at hpage
      have hrest := ih (whole.length - (k + 1) * size) (by rw [Nat.succ_mul]; omega) (k + 1)
        (by rw [Int.natCast_succ, Int.add_mul]; omega) rfl
      rw [← List.take_append_drop size (whole.drop (k * size)), hpage, List.map_append,
        List.map_cons, List.drop_drop, ← Nat.succ_mul]
      refine .more hshows ?_
      rwa [hsame k hoffset]

end Pages

/-- **The log can be read to its end page by page.** Requests for the pages of a listing, one after
the other until a page is empty, show the entries that the listing selects, each once and the latest
first, and nothing else. Each answer for this selection, whatever its page, tells how many they
are; so does one for a page behind the end. But where the store refuses to match the paths, each
answer for this selection is that refusal. -/
theorem log_read_through (f : Framework) (m : Moment) {requests : Nat → HttpRequest}
    (hpaths : ∀ k, f.KeepsPath (requests k)) (hlog : s.logs.entries = some entries)
    (hasks : ∀ k : Nat, Store.fits (k * l.limit) = true →
      AsksListing (requests k) { l with offset := k * l.limit })
    (hfits : Store.fits (l.selection.count m.time entries + l.limit) = true) :
    (l.selection.isRefused m.time entries = false → ∃ found : List RequestLog.Entry,
      found.Perm (entries.filter (l.selection.includes m.time)) ∧
      found.Pairwise (fun a b => b.time ≤ a.time) ∧
      (∀ shown, ReadsThrough f m requests 0 s shown ↔ shown = found.map entryDocument) ∧
      ∀ r other, AsksListing r other → other.selection = l.selection →
        Store.fits other.offset = true →
          (handle f m r s).1.ShowsEntries
            (((found.drop other.offset.toNat).take other.limit.toNat).map entryDocument)
            found.length) ∧
    (l.selection.isRefused m.time entries = true →
      ∀ r other, AsksListing r other → other.selection = l.selection →
        Store.fits other.offset = true → (handle f m r s).1 = patternTooComplex) := by
  have hlimit := one_le_limit hasks
  refine ⟨fun hmatches => ?_, fun hrefused r other hother hsame hoffset => ?_⟩
  · have hreads := readsThrough_drop hasks hpaths hlog hmatches hfits 0 (by omega)
    rw [Nat.zero_mul, List.drop_zero] at hreads
    refine ⟨l.selection.list m.time entries, RequestLog.Selection.perm_list _ _ _,
      RequestLog.Selection.pairwise_list _ _ _, fun shown => ?_, ?_⟩
    · constructor
      · intro hshown
        exact hshown.unique hreads
      · rintro rfl
        exact hreads
    · intro r other hother hsame hoffset
      rw [← hsame] at hmatches
      rw [RequestLog.Selection.length_list, ← hsame]
      exact handle_listing hother hlog hmatches hoffset
  · rw [← hsame] at hrefused
    exact handle_refused hother hlog hrefused hoffset

/-- Three errors among four entries, in pages of two. -/
theorem log_read_through_two_pages :
    let l : Listing :=
      { limit := 2, offset := 0, hours := 24, pathStart := none, errorsOnly := true }
    let entries : List RequestLog.Entry :=
      [{ id := 1, time := 0, method := "GET", path := "/api/explorer/tables", status := 500 },
        { id := 2, time := 5, method := "GET", path := "/api/explorer/operators", status := 200 },
        { id := 3, time := 5, method := "POST", path := "/api/explorer/query", status := 502 },
        { id := 4, time := 7, method := "GET", path := "/apis", status := 404 }]
    let m : Moment := { clock := 0, time := 10, today := "2024-01-01" }
    let s : State := { session := { source := {}, cache := {} }, logs := { entries } }
    let requests : Nat → HttpRequest := fun k => Listing.request { l with offset := k * l.limit }
    (∀ k, Framework.plain.KeepsPath (requests k)) ∧
    (∀ k : Nat, Store.fits (k * l.limit) = true →
      AsksListing (requests k) { l with offset := k * l.limit }) ∧
    Store.fits (l.selection.count m.time entries + l.limit) = true ∧
    l.selection.isRefused m.time entries = false ∧
    ∃ found : List RequestLog.Entry, found.length = 3 ∧
      ReadsThrough .plain m requests 0 s (found.map entryDocument) := by
  intro l entries m s requests
  have hbounds : l.InBounds := by constructor <;> decide
  have hpaths : ∀ k, Framework.plain.KeepsPath (requests k) := fun k => keepsPath_plain _
  have hasks : ∀ k : Nat, Store.fits (k * l.limit) = true →
      AsksListing (requests k) { l with offset := k * l.limit } := asksListing_pages hbounds
  have hfits : Store.fits (l.selection.count m.time entries + l.limit) = true := by decide +kernel
  have hmatches : l.selection.isRefused m.time entries = false := rfl
  obtain ⟨found, hperm, -, hreads, -⟩ :=
    (log_read_through (s := s) .plain m hpaths rfl hasks hfits).1 hmatches
  refine ⟨hpaths, hasks, hfits, hmatches, found, ?_, (hreads _).2 rfl⟩
  rw [hperm.length_eq]
  decide +kernel

/-- A beginning of equal letters. -/
def longStart (length : Nat) : String := String.ofList (List.replicate length 'a')

theorem size_longStart (length : Nat) : (longStart length ++ "%").utf8ByteSize = length + 1 := by
  have hletters : (longStart length).utf8ByteSize = (List.replicate length 'a').length := by
    refine Text.size_of_single fun c hc => ?_
    rw [List.eq_of_mem_replicate hc]
    rfl
  have hpercent : "%".utf8ByteSize = 1 := by decide
  rw [String.utf8ByteSize_append, hletters, hpercent, List.length_replicate]

/-- One entry, and a beginning that is too long. The first page tells no total, it is refused. -/
theorem log_read_through_long_start :
    let l : Listing :=
      { limit := 50, offset := 0, hours := 24, pathStart := some (longStart 50000)
        errorsOnly := false }
    let entries : List RequestLog.Entry :=
      [{ id := 1, time := 0, method := "GET", path := "/api/explorer/tables", status := 200 }]
    let m : Moment := { clock := 0, time := 10, today := "2024-01-01" }
    let s : State := { session := { source := {}, cache := {} }, logs := { entries } }
    AsksListing l.request l ∧ (handle .plain m l.request s).1.status = 500 ∧
      ∀ documents total, ¬(handle .plain m l.request s).1.ShowsEntries documents total := by
  intro l entries m s
  have hbounds : l.InBounds := by constructor <;> decide
  have hasks : AsksListing l.request l := asksListing_request hbounds (by decide)
  have hrefused : l.selection.isRefused m.time entries = true := by
    rw [RequestLog.Selection.isRefused_iff]
    refine ⟨longStart 50000, rfl, ?_, _, List.mem_singleton_self _, by decide⟩
    rw [size_longStart]
    decide
  have hanswer : (handle .plain m l.request s).1 = patternTooComplex :=
    handle_refused hasks rfl hrefused (by decide)
  refine ⟨hasks, by rw [hanswer]; rfl, fun documents total hshows => ?_⟩
  rw [hanswer] at hshows
  exact absurd hshows.1 (by decide)

end TableExplorer.Api
