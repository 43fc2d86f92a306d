import Mathlib.Logic.Function.Basic
import TableExplorer.Proofs.Resolve.Endless
import TableExplorer.Proofs.Resolve.Reference

/-!
# Resolutions side by side

Any number of resolutions share one cache and take turns, in any order: one may look up what another
has asked for already, or count on labels that it was told are known. Without a time to live nothing
that was known is forgotten, so the labels that a resolution did not ask for are there whenever its
turn comes, and the labels that it asked for are the same whoever stores them first.

The invariant of all turns is `Pool.Sane`. Main result: `interleaved_undisturbed`.
-/

namespace TableExplorer.Resolve

variable {ι σ : Type}

/-- What is to be resolved: some rows of a table. -/
structure Job where
  table : String
  rows : List Row

/-- The columns that a job goes through. -/
def Job.columns (job : Job) (lookups : Registry.Lookups) : Dict Registry.LookupSource :=
  mappedColumns lookups job.table job.rows

theorem Job.mem_sources (job : Job) (lookups : Registry.Lookups) :
    ∀ p ∈ job.columns lookups, p.2 ∈ lookups.sources :=
  mem_sources_of_mappedColumns lookups job.table job.rows

/-- Where each of several resolutions stands, and the session that they share. -/
structure Pool (ι σ : Type) where
  stages : ι → Stage
  session : Session σ

namespace Pool

/-- None has begun. -/
def opening (lookups : Registry.Lookups) (jobs : ι → Job) (s : Session σ) : Pool ι σ where
  stages i := .ready ((jobs i).columns lookups) (jobs i).rows
  session := s

variable [DecidableEq ι]

/-- One of them goes on to its next wait. -/
def turn (ds : DataSource σ) (p : Pool ι σ) (t : Rat × ι) : Pool ι σ :=
  let next := visit ds t.1 (p.stages t.2) p.session
  { stages := Function.update p.stages t.2 next.1, session := next.2 }

/-- One turn after the other. -/
def run (ds : DataSource σ) (turns : List (Rat × ι)) (p : Pool ι σ) : Pool ι σ :=
  turns.foldl (turn ds) p

/-! ## What every turn keeps -/

/-- The cache is sound, and no resolution has been led astray. -/
structure Sane (T : LookupTables) (lookups : Registry.Lookups) (jobs : ι → Job)
    (p : Pool ι σ) : Prop where
  sound : Sound T lookups p.session.cache
  along : ∀ i, (p.stages i).Along T lookups ((jobs i).columns lookups) (jobs i).rows
  covers : ∀ i, (p.stages i).Covers p.session.cache

variable {T : LookupTables} {lookups : Registry.Lookups} {jobs : ι → Job} {ds : DataSource σ}
  {p : Pool ι σ}

theorem Sane.turn (h : p.Sane T lookups jobs) (hfinds : FindsLabels ds T lookups)
    (t : Rat × ι) : (p.turn ds t).Sane T lookups jobs := by
  obtain ⟨now, i⟩ := t
  obtain ⟨hsound, hgrows, halong, hasks⟩ := along_visit hfinds now
    ((jobs i).mem_sources lookups) h.sound (h.along i) (h.covers i)
  constructor
  case sound => exact hsound
  case along =>
    intro j
    by_cases hj : j = i
    · subst hj
      simpa [Pool.turn] using halong
    · simpa [Pool.turn, hj] using h.along j
  case covers =>
    intro j
    by_cases hj : j = i
    · subst hj
      simpa [Pool.turn] using hasks.covers
    · -- The others asked earlier; what they left out is still known.
      simpa [Pool.turn, hj] using (h.covers j).grows hgrows

theorem Sane.run (h : p.Sane T lookups jobs) (hfinds : FindsLabels ds T lookups)
    (turns : List (Rat × ι)) : (p.run ds turns).Sane T lookups jobs := by
  induction turns generalizing p with
  | nil => exact h
  | cons t turns ih => exact ih (h.turn hfinds t)

/-- Every turn brings its resolution nearer to its end, and no other turn sets it back. -/
theorem left_run (ds : DataSource σ) (turns : List (Rat × ι)) (p : Pool ι σ) (i : ι) :
    ((p.run ds turns).stages i).left ≤ (p.stages i).left - turns.countP fun t => t.2 = i := by
  induction turns generalizing p with
  | nil => exact Nat.le_refl _
  | cons t turns ih =>
    have hrest : ((p.run ds (t :: turns)).stages i).left ≤ _ := ih (p.turn ds t)
    rw [List.countP_cons]
    by_cases hi : t.2 = i
    · subst hi
      have hvisit := left_visit ds t.1 (p.stages t.2) p.session
      simp only [Pool.turn, Function.update_self] at hrest
      simp only [decide_true, if_true]
      omega
    · have hother : (p.turn ds t).stages i = p.stages i := by
        simp [Pool.turn, Function.update_of_ne (Ne.symm hi)]
      rw [hother] at hrest
      simpa [hi] using hrest

end Pool

/-! ## The same rows as alone -/

/-- With separate keys, a resolution that stays on its way ends with all labels of its sources. -/
theorem Stage.Along.outcome_eq {T : LookupTables} {lookups : Registry.Lookups}
    {columns : Dict Registry.LookupSource} {found : List Row}
    {outcome : Except Failure (List Row)} (hseparate : lookups.Separate)
    (hcolumns : ∀ p ∈ columns, p.2 ∈ lookups.sources)
    (h : (Stage.ended outcome).Along T lookups columns found) :
    outcome = .ok (found.map (substituteAll (Dict.mapValues T.labels columns))) := by
  obtain ⟨steps, hsteps, houtcome⟩ := h
  rw [houtcome, hsteps.eq_labels fun p hp => hseparate.own (hcolumns p hp)]

/-- A resolution on its own does the same from any sound cache. -/
theorem rows_of_sound {ds : DataSource σ} {T : LookupTables} {lookups : Registry.Lookups}
    (hseparate : lookups.Separate) (hfinds : FindsLabels ds T lookups) (now : Rat)
    (found : List Row) (table : String) {s : Session σ} (hsound : Sound T lookups s.cache) :
    (rows ds lookups now found table s).1 = .ok (found.map (substituteAll
      (Dict.mapValues T.labels (mappedColumns lookups table found)))) := by
  let stage : Stage := .ready (mappedColumns lookups table found) found
  have hcolumns := mem_sources_of_mappedColumns lookups table found
  have henough : stage.left ≤ (List.replicate stage.left now).length := by simp
  obtain ⟨steps, hsteps, hended⟩ :=
    ended_of_along hfinds hcolumns stage henough hsound ⟨rfl, rfl⟩ trivial
  rw [visits_alone ds now stage (Nat.le_refl _)] at hended
  rw [rows_eq, ← hsteps.eq_labels fun p hp => hseparate.own (hcolumns p hp)]
  exact Stage.ended.inj hended

variable [DecidableEq ι]

/-- **Resolutions do not disturb each other.** Any number of them share a cache without a time to
live, as earlier resolutions may have left it, and take turns in any order, at any times; sources
that share a cache key are one source, and lookups are answered from fixed rows. Whichever ends has
the rows that it has on its own with an empty cache, and each ends after one turn for each of its
columns and one more. -/
theorem interleaved_undisturbed (ds : DataSource σ) (T : LookupTables)
    (lookups : Registry.Lookups) (hseparate : lookups.Separate)
    (hfinds : FindsLabels ds T lookups) (jobs : ι → Job) (start : Rat) (s : Session σ)
    (hreached : Reached ds lookups none start s.cache) (turns : List (Rat × ι)) (i : ι) :
    let stage := ((Pool.opening lookups jobs s).run ds turns).stages i
    let alone := fun (now : Rat) (state : σ) =>
      (rows ds lookups now (jobs i).rows (jobs i).table { source := state, cache := {} }).1
    (∀ outcome, stage = .ended outcome →
      (∃ resolved, outcome = .ok resolved) ∧ ∀ now state, outcome = alone now state) ∧
    (((jobs i).columns lookups).length < turns.countP (fun t => t.2 = i) →
      ∃ outcome, stage = .ended outcome) := by
  intro stage alone
  have hopening : (Pool.opening lookups jobs s).Sane T lookups jobs :=
    ⟨hreached.sound hfinds, fun _ => ⟨rfl, rfl⟩, fun _ => trivial⟩
  refine ⟨fun outcome hended => ?_, fun hturns => Stage.left_eq_zero ?_⟩
  · have halong := (hopening.run hfinds turns).along i
    rw [show ((Pool.opening lookups jobs s).run ds turns).stages i = _ from hended] at halong
    have houtcome := halong.outcome_eq hseparate ((jobs i).mem_sources lookups)
    refine ⟨⟨_, houtcome⟩, fun now state => ?_⟩
    rw [houtcome]
    exact (rows_of_sound hseparate hfinds now _ _ sound_empty).symm
  · have hleft := Pool.left_run ds turns (Pool.opening lookups jobs s) i
    have hready : ((Pool.opening lookups jobs s).stages i).left =
      ((jobs i).columns lookups).length + 1 := rfl
    show (((Pool.opening lookups jobs s).run ds turns).stages i).left = 0
    omega

/-- Two resolutions that ask for the same seller, the second before the first was answered. -/
theorem interleaved_undisturbed_sellers :
    let lookups : Registry.Lookups :=
      [("leads", [("owner", Registry.seller), ("closer", Registry.seller)])]
    let ds := sellers.scheduled fun _ => none
    let jobs : Bool → Job := fun later =>
      if later then { table := "leads", rows := [[("owner", .text "8")], [("owner", .text "7")]] }
      else { table := "leads", rows := [[("owner", .text "7"), ("closer", .text "8")]] }
    let s : Session Nat := { source := 0, cache := {} }
    let turns : List (Rat × Bool) := [(1, false), (2, true), (3, false), (3, true), (5, false)]
    let stage := ((Pool.opening lookups jobs s).run ds turns).stages false
    let alone := fun (now : Rat) (state : Nat) =>
      (rows ds lookups now (jobs false).rows (jobs false).table { source := state, cache := {} }).1
    (lookups.Separate ∧ FindsLabels ds sellers lookups ∧ Reached ds lookups none 1 s.cache ∧
      ((jobs false).columns lookups).length < turns.countP fun t => t.2 = false) ∧
    (∀ outcome, stage = .ended outcome →
      (∃ resolved, outcome = .ok resolved) ∧ ∀ now state, outcome = alone now state) ∧
    ∃ outcome, stage = .ended outcome := by
  intro lookups ds jobs s turns stage alone
  have hseparate : lookups.Separate := by unfold Registry.Lookups.Separate; decide
  have hfinds : FindsLabels ds sellers lookups := fun _ _ _ _ => rfl
  have hreached : Reached ds lookups none 1 s.cache := .fresh 1
  have hturns : ((jobs false).columns lookups).length < turns.countP fun t => t.2 = false := by
    decide
  obtain ⟨hsame, hends⟩ :=
    interleaved_undisturbed ds sellers lookups hseparate hfinds jobs 1 s hreached turns false
  exact ⟨⟨hseparate, hfinds, hreached, hturns⟩, hsame, hends hturns⟩

end TableExplorer.Resolve
