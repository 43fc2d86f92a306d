import TableExplorer.Proofs.Exchanges
import TableExplorer.Proofs.Store.Query

/-!
# Requests for windows of rows

Whether a request for a window of rows is answered with rows is a matter of the single rows in it:
it is, exactly if the request for every one of them is. What keeps a request from being run keeps it
from being run for any window; and a row that cannot be read spoils the windows that it stands in.

Main results: `Warehouse.clean_window_iff` and `Warehouse.clean_behind`.
-/

namespace TableExplorer

/-- A request for a window of rows. -/
def Request.window (r : Request) (start limit : Int) : Request :=
  { r with range := some (.window start limit) }

namespace Store

open Run

/-! ## Windows of a list -/

theorem cut_window {α : Type} (all : List α) {start limit : Int} (hlimit : 0 < limit) :
    cut (some (.window start limit)) all = (all.drop start.toNat).take limit.toNat := by
  simp only [cut, RowRange.limit_window, Int.not_lt.2 (Int.le_of_lt hlimit), if_false]
  rfl

theorem mem_cut_window {α : Type} {all : List α} {start limit : Int} (hstart : 0 ≤ start)
    (hlimit : 0 < limit) {x : α} :
    x ∈ cut (some (.window start limit)) all ↔
      ∃ i, start ≤ i ∧ i < start + limit ∧ all[i.toNat]? = some x := by
  rw [cut_window all hlimit, List.mem_iff_getElem?]
  constructor
  · rintro ⟨n, hn⟩
    rw [List.getElem?_take] at hn
    split at hn
    next hlt =>
      rw [List.getElem?_drop] at hn
      refine ⟨start + n, by omega, by omega, ?_⟩
      rw [← hn, show (start + n).toNat = start.toNat + n by omega]
    · cases hn
  · rintro ⟨i, hlow, hhigh, hi⟩
    refine ⟨(i - start).toNat, ?_⟩
    rw [List.getElem?_take, if_pos (by omega), List.getElem?_drop, ← hi,
      show start.toNat + (i - start).toNat = i.toNat by omega]

theorem getElem?_behind {α : Type} {all : List α} {start limit : Int} (hstart : 0 ≤ start)
    (hlimit : 0 < limit)
    (hshort : ((cut (some (.window start limit)) all).length : Int) < limit) {i : Int}
    (hi : start + limit ≤ i) : all[i.toNat]? = none := by
  rw [cut_window all hlimit, List.length_take, List.length_drop] at hshort
  rw [List.getElem?_eq_none_iff]
  omega

theorem fits_of_nonneg {i : Int} (hlow : 0 ≤ i) (hhigh : i ≤ maxInteger) : fits i = true := by
  have hmin : minInteger ≤ i := Int.le_trans (by decide) hlow
  simp [fits, hmin, hhigh]

/-! ## Windows of a request -/

namespace Warehouse

variable {w : Warehouse} {r : Request}

/-- All that a request asks for is found, whatever its range. -/
def Prepared (w : Warehouse) (r : Request) (conditions : List BoundCondition) (q : Placed) : Prop :=
  ∃ p, Plan.fromTables w.reflection w.knownJoins r = .ok p ∧
    p.conditions.mapM bindCondition = .ok conditions ∧ place w.database p conditions = .ok q

theorem answer_of_prepared {conditions : List BoundCondition} {q : Placed}
    (h : w.Prepared r conditions q) :
    w.answer r = match q.answer conditions r.range r.countExact with
      | .ok response => .ok response
      | .error (.reported f) => .ok { error := some f.report }
      | .error (.failed f) => .error f := by
  obtain ⟨p, hplan, hbound, hplaced⟩ := h
  have hrun : Run.plan w.database p r.range r.countExact =
      q.answer conditions r.range r.countExact := by
    rw [plan_eq, hbound]
    show ((place w.database p conditions).mapError _ >>= _) = _
    rw [hplaced]
    rfl
  unfold answer
  rw [hplan]
  dsimp only
  rewrite [hrun]
  rcases q.answer conditions r.range r.countExact with (f | f) | response <;> rfl

/-- An answer with rows is what a placed plan gives. -/
theorem placed_answer_of_prepared {conditions : List BoundCondition} {q : Placed}
    (h : w.Prepared r conditions q) {response : Response} (hanswer : w.answer r = .ok response)
    (hok : response.error = none) : q.answer conditions r.range r.countExact = .ok response := by
  rw [answer_of_prepared h] at hanswer
  cases hq : q.answer conditions r.range r.countExact with
  | ok found =>
    rw [hq] at hanswer
    cases hanswer
    rfl
  | error f =>
    rw [hq] at hanswer
    cases f with
    | reported f =>
      cases hanswer
      cases hok
    | failed f => cases hanswer

theorem exists_prepared (h : Clean (w.answer r)) :
    ∃ conditions q, w.Prepared r conditions q := by
  obtain ⟨response, hanswer, hok⟩ := h
  obtain ⟨p, hplan, hrun⟩ := answer_eq_ok hanswer hok
  rw [plan_eq] at hrun
  obtain ⟨conditions, hbound, hrun⟩ := bind_eq_ok.1 hrun
  obtain ⟨q, hplaced, -⟩ := bind_eq_ok.1 hrun
  exact ⟨conditions, q, p, hplan, mapError_eq_ok.1 hbound, mapError_eq_ok.1 hplaced⟩

/-- A request that is prepared is answered with rows exactly if its range can be read. -/
theorem clean_iff_of_prepared {conditions : List BoundCondition} {q : Placed}
    (h : w.Prepared r conditions q) :
    Clean (w.answer r) ↔ integersFit conditions r.range = true ∧
      ∀ row ∈ q.joined r.range, ∃ out, q.readRow row = .ok out := by
  constructor
  · rintro ⟨response, hanswer, hok⟩
    have hq := placed_answer_of_prepared h hanswer hok
    obtain ⟨hfit, hrows, -⟩ := reads_of_answer hq
    refine ⟨hfit, fun row hrow => ?_⟩
    obtain ⟨out, -, hout⟩ := exists_of_mem_left hrows hrow
    exact ⟨out, hout⟩
  · rintro ⟨hfit, hread⟩
    obtain ⟨response, hq⟩ := exists_answer hfit hread r.countExact
    rw [answer_of_prepared h, hq]
    exact ⟨response, rfl, (reads_of_answer hq).2.2⟩

variable {start limit : Int}

/-- A window is answered with rows exactly if what it asks for is found, the integers fit, and the
rows at its places can be read. -/
theorem clean_window_of_prepared {conditions : List BoundCondition} {q : Placed}
    (h : w.Prepared r conditions q) (hstart : 0 ≤ start) (hlimit : 0 < limit)
    (hend : start + limit ≤ maxInteger) :
    Clean (w.answer (r.window start limit)) ↔ integersFit conditions none = true ∧
      ∀ i, start ≤ i → i < start + limit → ∀ row, (q.joined none)[i.toNat]? = some row →
        ∃ out, q.readRow row = .ok out := by
  have hprepared : w.Prepared (r.window start limit) conditions q := h
  have hfit : integersFit conditions (some (.window start limit)) =
      integersFit conditions none := by
    have hstartFits : fits start = true := fits_of_nonneg hstart (by omega)
    have hlimitFits : fits limit = true := fits_of_nonneg (Int.le_of_lt hlimit) (by omega)
    unfold integersFit
    simp only [RowRange.limit_window, hlimitFits, Bool.and_true]
    rw [show (RowRange.window start limit).start = start from rfl, hstartFits, Bool.and_true]
  rw [clean_iff_of_prepared hprepared]
  show integersFit conditions (some (.window start limit)) = true ∧
    (∀ row ∈ cut (some (.window start limit)) (q.joined none), _) ↔ _
  rw [hfit]
  refine and_congr_right fun _ => ?_
  constructor
  · intro hread i hlow hhigh row hrow
    exact hread row ((mem_cut_window hstart hlimit).2 ⟨i, hlow, hhigh, hrow⟩)
  · intro hread row hrow
    obtain ⟨i, hlow, hhigh, hi⟩ := (mem_cut_window hstart hlimit).1 hrow
    exact hread i hlow hhigh row hi

/-- **A window is answered with rows exactly if each of its rows is.** -/
theorem clean_window_iff (hstart : 0 ≤ start) (hlimit : 0 < limit)
    (hend : start + limit ≤ maxInteger) :
    Clean (w.answer (r.window start limit)) ↔
      ∀ i, start ≤ i → i < start + limit → Clean (w.answer (r.window i 1)) := by
  by_cases hprepared : ∃ conditions q, w.Prepared r conditions q
  · obtain ⟨conditions, q, h⟩ := hprepared
    rw [clean_window_of_prepared h hstart hlimit hend]
    constructor
    · rintro ⟨hfit, hread⟩ i hlow hhigh
      refine (clean_window_of_prepared h (by omega) (by omega) (by omega)).2 ⟨hfit, ?_⟩
      intro j hj hj' row hrow
      exact hread j (by omega) (by omega) row hrow
    · intro hsingle
      have hrow : ∀ i, start ≤ i → i < start + limit → integersFit conditions none = true ∧ _ :=
        fun i hlow hhigh => (clean_window_of_prepared h (by omega) (by omega) (by omega)).1
          (hsingle i hlow hhigh)
      refine ⟨(hrow start (by omega) (by omega)).1, fun i hlow hhigh => ?_⟩
      exact (hrow i hlow hhigh).2 i (by omega) (by omega)
  · have hnever : ∀ start limit, ¬ Clean (w.answer (r.window start limit)) := by
      intro start limit hclean
      have hfound := exists_prepared hclean
      exact hprepared hfound
    constructor
    · exact fun hclean => absurd hclean (hnever start limit)
    · exact fun hsingle => absurd (hsingle start (by omega) (by omega)) (hnever start 1)

/-- **Behind a window that is not full every row is answered**, as there is none. -/
theorem clean_behind (hstart : 0 ≤ start) (hlimit : 0 < limit) {response : Response}
    (hanswer : w.answer (r.window start limit) = .ok response) (hok : response.error = none)
    (hshort : (response.rows.length : Int) < limit) {i : Int} (hi : start + limit ≤ i)
    (hend : i + 1 ≤ maxInteger) : Clean (w.answer (r.window i 1)) := by
  have hclean : Clean (w.answer (r.window start limit)) := ⟨response, hanswer, hok⟩
  obtain ⟨conditions, q, h⟩ := exists_prepared hclean
  have hprepared : w.Prepared r conditions q := h
  have hfit := ((clean_window_of_prepared hprepared hstart hlimit (by omega)).1 hclean).1
  have hlength : ((cut (some (.window start limit)) (q.joined none)).length : Int) < limit := by
    have hrows := (reads_of_answer (placed_answer_of_prepared h hanswer hok)).2.1
    rwa [← hrows.length_eq] at hshort
  refine (clean_window_of_prepared hprepared (by omega) (by omega) (by omega)).2 ⟨hfit, ?_⟩
  intro j hj hj' row hrow
  rw [getElem?_behind hstart hlimit hlength (by omega)] at hrow
  cases hrow

end Warehouse

end Store

end TableExplorer
