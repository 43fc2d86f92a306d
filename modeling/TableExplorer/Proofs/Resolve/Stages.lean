import TableExplorer.Proofs.Resolve.Trace

/-!
# Resolutions in stages

A resolution waits whenever it asks the source for labels, and while it waits others use the cache.
Between two waits it is not interrupted: on an answer it merges the labels, reads those of the
column, puts them in place, and goes on through the columns to the next one that lacks labels.

`visit` is such a stretch. Its steps are those of the resolution without waits, `pending` and
`absorb`, and a resolution that nobody disturbs between its visits is that resolution.

Main results: `visits_alone`, and `left_visits`, which bounds the number of waits.
-/

namespace TableExplorer.Resolve

variable {σ : Type}

/-! ## From wait to wait -/

/-- Where a resolution stands when others may use the cache. -/
inductive Stage
  /-- It has not begun. -/
  | ready (columns : Dict Registry.LookupSource) (rows : List Row)
  /-- It has asked for the missing labels of a column; the other columns come after it. -/
  | waiting (name : String) (source : Registry.LookupSource) (missing : List String)
      (rows : List Row) (rest : Dict Registry.LookupSource)
  /-- It is over. -/
  | ended (outcome : Except Failure (List Row))

/-- Resolve columns up to the first whose labels must be asked for. -/
def advance (now : Rat) :
    Dict Registry.LookupSource → List Row → LookupCache → Stage × LookupCache
  | [], rows, cache => (.ended (.ok rows), cache)
  | (name, source) :: rest, rows, cache =>
    let ids := distinctIds rows name
    if ids.isEmpty then advance now rest rows cache
    else
      let (missing, cache) := pending now source ids cache
      if missing.isEmpty then
        let (rows, cache) := absorb now source name rows none cache
        advance now rest rows cache
      else (.waiting name source missing rows rest, cache)

/-- Take the answer for a column, and go on. -/
def resume (now : Rat) (name : String) (source : Registry.LookupSource) (rows : List Row)
    (rest : Dict Registry.LookupSource) (cache : LookupCache) :
    Except Failure (List Row) → Stage × LookupCache
  | .ok fetched =>
    let (rows, cache) := absorb now source name rows (some fetched) cache
    advance now rest rows cache
  | .error f =>
    match f.kind with
    | .source =>
      let (rows, cache) := absorb now source name rows none cache
      advance now rest rows cache
    | _ => (.ended (.error f), cache)

/-- Let a resolution go on to its next wait: nothing else happens in between. -/
def visit (ds : DataSource σ) (now : Rat) : Stage → Session σ → Stage × Session σ
  | .ready columns rows, s =>
    let (stage, cache) := advance now columns rows s.cache
    (stage, { s with cache })
  | .waiting name source missing rows rest, s =>
    let (answer, state) := ds.lookup (request source missing) s.source
    let (stage, cache) := resume now name source rows rest s.cache answer
    (stage, { source := state, cache })
  | .ended outcome, s => (.ended outcome, s)

/-- One visit after the other, at the times given, with nothing in between. -/
def visits (ds : DataSource σ) (times : List Rat) (stage : Stage) (s : Session σ) :
    Stage × Session σ :=
  times.foldl (fun stand now => visit ds now stand.1 stand.2) (stage, s)

theorem visits_cons (ds : DataSource σ) (now : Rat) (times : List Rat) (stage : Stage)
    (s : Session σ) :
    visits ds (now :: times) stage s =
      visits ds times (visit ds now stage s).1 (visit ds now stage s).2 := rfl

theorem visits_append (ds : DataSource σ) (times times' : List Rat) (stage : Stage)
    (s : Session σ) :
    visits ds (times ++ times') stage s =
      visits ds times' (visits ds times stage s).1 (visits ds times stage s).2 :=
  List.foldl_append

/-! ## The number of waits -/

/-- How many visits a resolution needs at most. -/
def Stage.left : Stage → Nat
  | .ready columns _ => columns.length + 1
  | .waiting _ _ _ _ rest => rest.length + 1
  | .ended _ => 0

theorem Stage.left_eq_zero {stage : Stage} (h : stage.left = 0) :
    ∃ outcome, stage = .ended outcome := by
  cases stage with
  | ready columns rows => exact absurd h (Nat.succ_ne_zero _)
  | waiting name source missing rows rest => exact absurd h (Nat.succ_ne_zero _)
  | ended outcome => exact ⟨outcome, rfl⟩

theorem left_advance (now : Rat) (columns : Dict Registry.LookupSource) (rows : List Row)
    (cache : LookupCache) : (advance now columns rows cache).1.left ≤ columns.length := by
  induction columns generalizing rows cache with
  | nil => exact Nat.le_refl 0
  | cons column rest ih =>
    obtain ⟨name, source⟩ := column
    unfold advance
    dsimp only
    split
    · exact Nat.le_succ_of_le (ih _ _)
    · split
      · exact Nat.le_succ_of_le (ih _ _)
      · exact Nat.le_refl _

theorem left_resume (now : Rat) (name : String) (source : Registry.LookupSource)
    (rows : List Row) (rest : Dict Registry.LookupSource) (cache : LookupCache)
    (answer : Except Failure (List Row)) :
    (resume now name source rows rest cache answer).1.left ≤ rest.length := by
  cases answer with
  | ok fetched => exact left_advance _ _ _ _
  | error f =>
    unfold resume
    dsimp only
    split
    · exact left_advance _ _ _ _
    · exact Nat.zero_le _

/-- A visit brings a resolution nearer to its end. -/
theorem left_visit (ds : DataSource σ) (now : Rat) (stage : Stage) (s : Session σ) :
    (visit ds now stage s).1.left ≤ stage.left - 1 := by
  cases stage with
  | ready columns rows => exact left_advance _ _ _ _
  | waiting name source missing rows rest => exact left_resume _ _ _ _ _ _ _
  | ended outcome => exact Nat.le_refl 0

/-- **A resolution ends** after one visit for each of its columns and one more. -/
theorem left_visits (ds : DataSource σ) (times : List Rat) (stage : Stage) (s : Session σ) :
    (visits ds times stage s).1.left ≤ stage.left - times.length := by
  induction times generalizing stage s with
  | nil => exact Nat.le_refl _
  | cons now times ih =>
    rw [visits_cons, List.length_cons]
    have hvisit := left_visit ds now stage s
    have hrest := ih (visit ds now stage s).1 (visit ds now stage s).2
    omega

theorem ended_visits (ds : DataSource σ) {times : List Rat} {stage : Stage} (s : Session σ)
    (h : stage.left ≤ times.length) :
    ∃ outcome, (visits ds times stage s).1 = .ended outcome := by
  refine Stage.left_eq_zero ?_
  have hleft := left_visits ds times stage s
  omega

/-! ## Undisturbed visits -/

/-- What becomes of a resolution if nobody uses the cache from now on. -/
def finish (ds : DataSource σ) (now : Rat) :
    Stage → Session σ → Except Failure (List Row) × Session σ
  | .ready columns rows, s => Resolve.columns ds now columns rows s
  | .waiting name source missing rows rest, s =>
    match ds.lookup (request source missing) s.source with
    | (.ok fetched, state) =>
      let (rows, cache) := absorb now source name rows (some fetched) s.cache
      columns ds now rest rows { source := state, cache }
    | (.error f, state) =>
      match f.kind with
      | .source =>
        let (rows, cache) := absorb now source name rows none s.cache
        columns ds now rest rows { source := state, cache }
      | _ => (.error f, { s with source := state })
  | .ended outcome, s => (outcome, s)

theorem finish_waiting (ds : DataSource σ) (now : Rat) (name : String)
    (source : Registry.LookupSource) (missing : List String) (rows : List Row)
    (rest : Dict Registry.LookupSource) (s : Session σ) :
    finish ds now (.waiting name source missing rows rest) s =
      match ds.lookup (request source missing) s.source with
      | (.ok fetched, state) =>
        columns ds now rest (absorb now source name rows (some fetched) s.cache).1
          { source := state, cache := (absorb now source name rows (some fetched) s.cache).2 }
      | (.error f, state) =>
        match f.kind with
        | .source =>
          columns ds now rest (absorb now source name rows none s.cache).1
            { source := state, cache := (absorb now source name rows none s.cache).2 }
        | _ => (.error f, { s with source := state }) := rfl

theorem finish_advance (ds : DataSource σ) (now : Rat)
    (sources : Dict Registry.LookupSource) (found : List Row) (s : Session σ) :
    finish ds now (advance now sources found s.cache).1
        { s with cache := (advance now sources found s.cache).2 } =
      columns ds now sources found s := by
  induction sources generalizing found s with
  | nil => rfl
  | cons p rest ih =>
    obtain ⟨name, source⟩ := p
    simp only [advance, columns, column]
    by_cases hids : (distinctIds found name).isEmpty
    · simp only [hids, if_true]
      exact ih found s
    · simp only [hids, if_false, Bool.false_eq_true]
      rcases hpending : pending now source (distinctIds found name) s.cache with ⟨missing, cleaned⟩
      by_cases hmissing : missing.isEmpty
      · simp only [hmissing, if_true]
        exact ih _ { s with cache := _ }
      · simp only [hmissing, if_false, Bool.false_eq_true, finish]
        rcases ds.lookup (request source missing) s.source with ⟨answer, state⟩
        cases answer with
        | ok fetched => rfl
        | error f => cases hkind : f.kind <;> simp only [hkind]

theorem finish_visit (ds : DataSource σ) (now : Rat) (stage : Stage) (s : Session σ) :
    finish ds now (visit ds now stage s).1 (visit ds now stage s).2 = finish ds now stage s := by
  cases stage with
  | ready columns rows => exact finish_advance ds now columns rows s
  | waiting name source missing rows rest =>
    rcases hanswer : ds.lookup (request source missing) s.source with ⟨answer, state⟩
    simp only [visit, hanswer]
    cases answer with
    | ok fetched =>
      simp only [finish_waiting, hanswer]
      exact finish_advance ds now rest _ { source := state, cache := _ }
    | error f =>
      simp only [finish_waiting, hanswer, resume]
      cases hkind : f.kind with
      | source => exact finish_advance ds now rest _ { source := state, cache := _ }
      | _ => rfl
  | ended outcome => rfl

/-- **Visits without disturbance are the resolution.** -/
theorem visits_alone (ds : DataSource σ) (now : Rat) (stage : Stage) {times : Nat}
    (h : stage.left ≤ times) (s : Session σ) :
    visits ds (List.replicate times now) stage s =
      (.ended (finish ds now stage s).1, (finish ds now stage s).2) := by
  have hfinish : ∀ n stage (s : Session σ),
      finish ds now (visits ds (List.replicate n now) stage s).1
        (visits ds (List.replicate n now) stage s).2 = finish ds now stage s := by
    intro n
    induction n with
    | zero => exact fun _ _ => rfl
    | succ n ih =>
      intro stage s
      rw [List.replicate_succ, visits_cons, ih, finish_visit]
  have hlength : stage.left ≤ (List.replicate times now).length := by
    rwa [List.length_replicate]
  obtain ⟨outcome, houtcome⟩ := ended_visits ds s hlength
  have hsame := hfinish times stage s
  rw [houtcome] at hsame
  refine Prod.ext ?_ ?_
  · rw [houtcome, ← hsame]
    rfl
  · rw [← hsame]
    rfl

end TableExplorer.Resolve
