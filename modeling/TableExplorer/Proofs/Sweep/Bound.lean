import Mathlib.Data.Rat.Floor
import Mathlib.Order.Bounds.Defs
import TableExplorer.DataSource.Scripted
import TableExplorer.Engine
import TableExplorer.Proofs.Sweep.Trace

/-!
# How many requests a sweep sends

Every request of a sweep but the last either moves the offset on by a window, or halves a page size
above the floor. No window behind which a sweep goes on is smaller than the smaller one of page size
and floor, so both can happen only so often, whatever the source answers.

The measure is the pair of what is left to the cap, in windows of the least size, and what is left
to the floor, in halvings. A full page takes one from the first, a timeout one from the second.

Main result: `Engine.sweep_bounded`.
-/

namespace TableExplorer

variable {σ : Type}

namespace Sweep

/-! ## Patience is not spent -/

/-- With a positive page size and a positive floor it does not matter how many requests may repeat
the one before. -/
theorem run_patience (query : Request → σ → Except Failure Response × σ)
    (compile : Int → Int → Request) {limits : SweepLimits} (hfloor : 0 < limits.minPageSize)
    (patience other : Nat) (pageSize offset : Int) (rows : List Row) (s : σ)
    (hpage : 0 < pageSize) :
    run query compile { limits with patience := other } other pageSize offset rows s =
      run query compile limits patience pageSize offset rows s := by
  have hback : backOff { limits with patience := other } = backOff limits := rfl
  fun_induction run query compile limits patience pageSize offset rows s with
  | case1 patience pageSize offset rows s hcap limit request f s' hq =>
    rw [run]
    simp [hcap, hq, request, limit]
  | case2 patience pageSize offset rows s hcap limit request response s' hq text hfail htime hsmall
      report s'' hrest ih =>
    rw [run]
    simp [hcap, hq, hfail, htime, hsmall, hback, ih (backOff_pos hfloor pageSize), hrest, request,
      limit]
  -- Above the floor a page size does shrink, so patience is never spent on timeouts.
  | case3 _ pageSize _ _ _ _ _ _ _ _ _ _ _ htime hsmall
  | case4 _ pageSize _ _ _ _ _ _ _ _ _ _ _ htime hsmall =>
    simp only [Bool.and_eq_true, decide_eq_true_eq] at htime
    exact absurd ⟨hpage, backOff_lt hpage htime.2⟩ hsmall
  | case5 patience pageSize offset rows s hcap limit request response s' hq text hfail htime =>
    rw [run]
    simp [hcap, hq, hfail, htime, request, limit]
  | case6 patience pageSize offset rows s hcap limit request response s' hq hfail hnone =>
    rw [run]
    simp [hcap, hq, hfail, hnone, request, limit]
  | case7 patience pageSize offset rows s hcap limit request response s' hq hfail hsome gathered
      hshort =>
    rw [run]
    simp only [hcap, hq, hfail, hsome, hshort, request, limit, gathered, dite_true, if_false,
      if_true, Bool.false_eq_true]
  | case8 patience pageSize offset rows s hcap limit request response s' hq hfail hsome gathered
      hfull hpos report s'' hrest ih =>
    rw [run]
    simp [hcap, hq, hfail, hsome, hfull, hpos, ih hpage, hrest, request, limit, gathered]
  -- A window below the cap holds at least one row, so patience is never spent on pages.
  | case9 _ _ _ _ _ hcap _ _ _ _ _ _ _ _ _ hzero
  | case10 _ _ _ _ _ hcap _ _ _ _ _ _ _ _ _ hzero =>
    exact absurd (Cursor.limit_pos (c := ⟨_, _, []⟩) hpage hcap) hzero
  | case11 patience pageSize offset rows s hcap =>
    rw [run]
    simp [hcap]

/-! ## The measure -/

variable {limits : SweepLimits} {compile : Int → Int → Request} {c : Cursor}

theorem Cursor.windows_pos {unit : Int} {windows : Nat} (hbelow : c.offset < limits.maxRows)
    (hleft : limits.maxRows - c.offset ≤ unit * windows) : 0 < windows := by
  rcases Nat.eq_zero_or_pos windows with rfl | hpos
  · simp only [Nat.cast_zero, mul_zero] at hleft
    omega
  · exact hpos

/-- A full page takes one window from those that are left. -/
theorem Cursor.left_advanced {unit : Int} {windows : Nat} (hunit : 0 < unit)
    (hpage : unit ≤ c.pageSize) (hleft : limits.maxRows - c.offset ≤ unit * (windows + 1 : Nat))
    (page : List Row) :
    limits.maxRows - (c.advanced limits page).offset ≤ unit * windows := by
  have hrest : 0 ≤ unit * (windows : Int) := by positivity
  rw [Nat.cast_add, Nat.cast_one, mul_add, mul_one] at hleft
  show limits.maxRows - (c.offset + min c.pageSize (limits.maxRows - c.offset)) ≤ unit * windows
  omega

theorem Cursor.halvings_pos {halvings : Nat} (habove : limits.minPageSize < c.pageSize)
    (hleft : c.pageSize ≤ limits.minPageSize * 2 ^ halvings) : 0 < halvings := by
  rcases Nat.eq_zero_or_pos halvings with rfl | hpos
  · rw [pow_zero, mul_one] at hleft
    omega
  · exact hpos

/-- A timeout takes one halving from those that are left. -/
theorem Cursor.left_shrunk {halvings : Nat} (hfloor : 0 < limits.minPageSize)
    (hleft : c.pageSize ≤ limits.minPageSize * 2 ^ (halvings + 1)) :
    (c.shrunk limits).pageSize ≤ limits.minPageSize * 2 ^ halvings := by
  have hfloorLeft : limits.minPageSize ≤ limits.minPageSize * 2 ^ halvings :=
    le_mul_of_one_le_right hfloor.le (one_le_pow₀ one_le_two)
  rw [pow_succ, ← mul_assoc] at hleft
  show max limits.minPageSize (c.pageSize / 2) ≤ _
  omega

/-- **The length of a trace**: no more than the windows that are left to the cap and the halvings
that are left to the floor. -/
theorem Trace.length_le {calls : List Exchange} {report : Report}
    (h : Trace limits compile c calls report) {unit : Int} (hunit : 0 < unit)
    (hfloor : unit ≤ limits.minPageSize) (hpage : unit ≤ c.pageSize) {windows halvings : Nat}
    (hwindows : limits.maxRows - c.offset ≤ unit * windows)
    (hhalvings : c.pageSize ≤ limits.minPageSize * 2 ^ halvings) :
    calls.length ≤ windows + halvings := by
  induction h generalizing windows halvings with
  | capped _ => exact Nat.zero_le _
  | failed hbelow | stopped hbelow _ _ | empty hbelow _ _ | short hbelow _ _ _ =>
    have hpos := Cursor.windows_pos hbelow hwindows
    rw [List.length_singleton]
    omega
  | @retried c response text calls report hbelow _ _ habove _ ih =>
    obtain ⟨halvings, rfl⟩ := Nat.exists_eq_add_one.2 (Cursor.halvings_pos habove hhalvings)
    have hshrunk : unit ≤ (c.shrunk limits).pageSize := hfloor.trans (le_max_left _ _)
    have hrest := ih hshrunk hwindows (Cursor.left_shrunk (hunit.trans_le hfloor) hhalvings)
    rw [List.length_cons]
    omega
  | @full c response calls report hbelow _ _ _ _ ih =>
    obtain ⟨windows, rfl⟩ := Nat.exists_eq_add_one.2 (Cursor.windows_pos hbelow hwindows)
    have hrest := ih hpage (Cursor.left_advanced hunit hpage hwindows response.rows) hhalvings
    rw [List.length_cons]
    omega

/-- As many windows of a size as it takes to hold all rows. -/
theorem le_mul_ceil {unit : Int} (hunit : 0 < unit) (rows : Int) :
    rows ≤ unit * ⌈(rows : ℚ) / unit⌉ := by
  have hceil : (rows : ℚ) / unit ≤ ⌈(rows : ℚ) / unit⌉ := Int.le_ceil _
  rw [div_le_iff₀ (by exact_mod_cast hunit), mul_comm] at hceil
  exact_mod_cast hceil

/-- Some number of halvings leads from a page size to the floor. -/
theorem exists_least_halvings {floor : Int} (hfloor : 0 < floor) (pageSize : Int) :
    ∃ h : ℕ, IsLeast {h : ℕ | pageSize ≤ floor * 2 ^ h} h := by
  have hsome : ∃ h : ℕ, pageSize ≤ floor * 2 ^ h := by
    refine ⟨pageSize.toNat, ?_⟩
    have hpow : (pageSize.toNat : ℤ) < 2 ^ pageSize.toNat := by
      exact_mod_cast Nat.lt_two_pow_self
    have hle : (2 : ℤ) ^ pageSize.toNat ≤ floor * 2 ^ pageSize.toNat :=
      le_mul_of_one_le_left (by positivity) hfloor
    omega
  exact ⟨Nat.find hsome, Nat.find_spec hsome, fun h hh => Nat.find_min' hsome hh⟩

theorem Trace.length_requests {calls : List Exchange} {report : Report}
    (h : Trace limits compile c calls report) : report.requests.length = calls.length := by
  induction h with
  | capped _ | failed _ | stopped _ _ _ | empty _ _ _ | short _ _ _ _ => rfl
  | retried _ _ _ _ _ ih | full _ _ _ _ _ ih => exact congrArg (· + 1) ih

end Sweep

/-! ## The export -/

/-- **A sweep ends**, whatever the source answers, after no more requests than it takes to get to
the cap in windows of the smaller one of page size and floor, and from the page size to the floor by
halving. It ends by itself: the number of requests that may repeat the one before plays no part. -/
theorem Engine.sweep_bounded (e : Engine σ) (limits : SweepLimits) (hcap : 0 ≤ limits.maxRows)
    (hpage : 1 ≤ limits.pageSize) (hfloor : 1 ≤ limits.minPageSize) (q : QueryState) (s : σ) :
    let swept := Sweep.ofState e.source.query e.mandatory limits q s
    let calls := Sweep.calls e.source e.mandatory limits q s
    (∃ h : ℕ, IsLeast {h : ℕ | limits.pageSize ≤ limits.minPageSize * 2 ^ h} h ∧
      (calls.length : ℤ) ≤
        ⌈(limits.maxRows : ℚ) / (min limits.pageSize limits.minPageSize : ℤ)⌉ + h) ∧
    swept.1.requests.length = calls.length ∧
    ∀ patience, Sweep.ofState e.source.query e.mandatory { limits with patience } q s = swept := by
  intro swept calls
  have htrace := (Sweep.ofState_trace e.source e.mandatory limits hpage hfloor q s).2
  refine ⟨?_, htrace.length_requests, fun patience => ?_⟩
  · obtain ⟨h, hleast⟩ := Sweep.exists_least_halvings hfloor limits.pageSize
    refine ⟨h, hleast, ?_⟩
    have hunit : 0 < min limits.pageSize limits.minPageSize := lt_min hpage hfloor
    have hceil : 0 ≤ ⌈(limits.maxRows : ℚ) / (min limits.pageSize limits.minPageSize : ℤ)⌉ :=
      Int.ceil_nonneg (div_nonneg (by exact_mod_cast hcap) (by exact_mod_cast hunit.le))
    obtain ⟨windows, hwindows⟩ := Int.eq_ofNat_of_zero_le hceil
    have hrows := Sweep.le_mul_ceil hunit limits.maxRows
    rw [hwindows] at hrows ⊢
    have hlength : calls.length ≤ windows + h :=
      htrace.length_le hunit (min_le_right _ _) (min_le_left _ _) (by simpa using hrows) hleast.1
    exact_mod_cast hlength
  · exact Sweep.run_patience _ _ hfloor limits.patience patience limits.pageSize 0 [] s hpage

/-- A source that times out at eight and at four rows, and then gives full pages of two. -/
def Sweep.slow : Scripted.Script where
  queries :=
    let page : Response := { rows := [[("id", .text "a")], [("id", .text "b")]] }
    .ok ([.ok { error := some "statement timeout" }, .ok { error := some "statement timeout" }] ++
      List.replicate 6 (.ok page))

/-- Ten rows are five windows of two rows, and two halvings lead from eight to two: a sweep sends no
more than seven requests. -/
theorem Engine.sweep_bounded_slow :
    let e : Engine Scripted.Script := { source := Scripted.source }
    let limits : SweepLimits := { maxRows := 10, pageSize := 8, minPageSize := 2 }
    let q : QueryState := { table := "leads" }
    let swept := Sweep.ofState e.source.query e.mandatory limits q Sweep.slow
    let calls := Sweep.calls e.source e.mandatory limits q Sweep.slow
    (0 ≤ limits.maxRows ∧ 1 ≤ limits.pageSize ∧ 1 ≤ limits.minPageSize) ∧
    (∃ h : ℕ, IsLeast {h : ℕ | limits.pageSize ≤ limits.minPageSize * 2 ^ h} h ∧
      (calls.length : ℤ) ≤
        ⌈(limits.maxRows : ℚ) / (min limits.pageSize limits.minPageSize : ℤ)⌉ + h) ∧
    swept.1.requests.length = calls.length ∧
    ∀ patience, Sweep.ofState e.source.query e.mandatory { limits with patience } q Sweep.slow =
      swept := by
  intro e limits q swept calls
  exact ⟨by decide, e.sweep_bounded limits (by decide) (by decide) (by decide) q Sweep.slow⟩

end TableExplorer
