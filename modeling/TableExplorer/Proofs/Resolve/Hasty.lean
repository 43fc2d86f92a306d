import TableExplorer.Proofs.Resolve.Faithful

/-!
# Labels that expire at once

With a time to live below zero everything has expired when it is read, also at the moment at which
it was stored. As long as the clock does not run backwards, such a cache never yields a label, and
resolving changes no row.

Main result: `Trace.hasty`.
-/

namespace TableExplorer

namespace LookupCache

/-- Whether labels expire at the moment at which they are stored. -/
def Hasty (c : LookupCache) : Prop := ∃ ttl, c.timeToLive = some ttl ∧ ttl < 0

/-- Labels were stored in the past, and none are held without a time. -/
structure Timely (c : LookupCache) (now : Rat) : Prop where
  past : ∀ key storedAt, Dict.get? c.loadedAt key = some storedAt → storedAt ≤ now
  timed : ∀ key, Dict.get? c.loadedAt key = none → Dict.get? c.labels key = none

theorem not_hasty_iff (c : LookupCache) : ¬ c.Hasty ↔ c.Lasting := by
  simp only [Hasty, Lasting, not_exists, not_and, Rat.not_lt]

theorem Timely.later {c : LookupCache} {now later : Rat} (h : c.Timely now)
    (hlater : now ≤ later) : c.Timely later :=
  ⟨fun key storedAt hstored => Rat.le_trans (h.past key storedAt hstored) hlater, h.timed⟩

theorem Timely.evictLabels {c : LookupCache} {now : Rat} (h : c.Timely now) (at' : Rat)
    (key : String) : (c.evictLabels at' key).Timely now := by
  constructor
  · intro other storedAt hstored
    rw [get?_loadedAt_evictLabels] at hstored
    split at hstored
    · cases hstored
    · exact h.past other storedAt hstored
  · intro other hnone
    rw [get?_loadedAt_evictLabels] at hnone
    rw [get?_labels_evictLabels]
    split
    · rfl
    next hkept =>
      rw [if_neg hkept] at hnone
      exact h.timed other hnone

theorem Timely.mergeLabels {c : LookupCache} {now : Rat} (h : c.Timely now) (key : String)
    (labels : Labels) : (c.mergeLabels now key labels).Timely now := by
  constructor
  · intro other storedAt hstored
    rw [get?_loadedAt_mergeLabels] at hstored
    split at hstored
    · cases hloaded : Dict.get? c.loadedAt key with
      | none =>
        rw [hloaded] at hstored
        cases hstored
        exact Rat.le_refl
      | some first =>
        rw [hloaded] at hstored
        cases hstored
        exact h.past key _ hloaded
    · exact h.past other storedAt hstored
  · intro other hnone
    rw [get?_loadedAt_mergeLabels] at hnone
    split at hnone
    · cases hnone
    next hother =>
      show Dict.get? (Dict.insert c.labels key _) other = none
      rw [Dict.get?_insert_of_ne _ _ hother]
      exact h.timed other hnone

theorem stale_of_hasty {c : LookupCache} {now storedAt : Rat} {key : String} (h : c.Hasty)
    (htimely : c.Timely now) (hloaded : Dict.get? c.loadedAt key = some storedAt) :
    c.stale now key = true := by
  obtain ⟨ttl, httl, hneg⟩ := h
  have hpast := htimely.past key storedAt hloaded
  rw [stale, hloaded, Option.any_some, isExpired, httl]
  exact decide_eq_true (by grind)

theorem heldLabels_of_hasty {c : LookupCache} {now : Rat} (h : c.Hasty) (htimely : c.Timely now)
    (key : String) : (c.evictLabels now key).heldLabels key = [] := by
  rw [heldLabels_evictLabels]
  split
  · rfl
  next hkept =>
    cases hloaded : Dict.get? c.loadedAt key with
    | some storedAt => exact absurd ⟨stale_of_hasty h htimely hloaded, rfl⟩ hkept
    | none => rw [heldLabels, htimely.timed key hloaded, Option.getD_none]

end LookupCache

namespace Resolve

variable {σ : Type}

/-! ## Hasty resolutions -/

theorem timely_withAnswer {now : Rat} {cache : LookupCache} (h : cache.Timely now)
    (source : Registry.LookupSource) (answer : Option (List Row)) :
    (withAnswer now source cache answer).Timely now := by
  cases answer with
  | none => exact h
  | some fetched => exact h.mergeLabels _ _

theorem timeToLive_withAnswer (now : Rat) (source : Registry.LookupSource) (cache : LookupCache)
    (answer : Option (List Row)) :
    (withAnswer now source cache answer).timeToLive = cache.timeToLive := by
  cases answer <;> rfl

/-- A column with a cache that was just cleaned and whatever answer. -/
theorem timely_absorb {now : Rat} {name : String} {source : Registry.LookupSource}
    {found : List Row} {ids missing : List String} {cache cleaned : LookupCache}
    (hpending : pending now source ids cache = (missing, cleaned))
    (answer : Option (List Row)) (htimely : cache.Timely now) :
    let absorbed := absorb now source name found answer cleaned
    absorbed.2.Timely now ∧ absorbed.2.timeToLive = cache.timeToLive ∧
      (cache.Hasty → absorbed.1 = found) := by
  rw [pending_eq, Prod.mk.injEq] at hpending
  obtain ⟨-, rfl⟩ := hpending
  rw [absorb_eq]
  have hafter := timely_withAnswer (htimely.evictLabels now source.cacheKey) source answer
  have httl : (withAnswer now source (cache.evictLabels now source.cacheKey) answer).timeToLive =
      cache.timeToLive := by
    rw [timeToLive_withAnswer, LookupCache.timeToLive_evictLabels]
  refine ⟨hafter.evictLabels _ _, ?_, fun hhasty => ?_⟩
  · rw [LookupCache.timeToLive_evictLabels, httl]
  · have hhasty' : (withAnswer now source
        (cache.evictLabels now source.cacheKey) answer).Hasty := by
      rwa [LookupCache.Hasty, httl]
    show found.map (substitute name _) = found
    rw [LookupCache.heldLabels_of_hasty hhasty' hafter,
      show substitute name [] = id from funext (substitute_nil name), List.map_id]

theorem ColumnTrace.timely {now : Rat} {name : String} {source : Registry.LookupSource}
    {found : List Row} {cache cache' : LookupCache} {calls : List Exchange}
    {outcome : Except Failure (List Row)}
    (h : ColumnTrace now name source found cache calls outcome cache')
    (htimely : cache.Timely now) :
    cache'.Timely now ∧ cache'.timeToLive = cache.timeToLive ∧
      (cache.Hasty → ∀ found', outcome = .ok found' → found' = found) := by
  cases h with
  | vacant hids => exact ⟨htimely, rfl, fun _ found' heq => (Except.ok.inj heq).symm⟩
  | known _ hpending =>
    obtain ⟨hafter, httl, hsame⟩ := timely_absorb hpending none htimely
    exact ⟨hafter, httl, fun hhasty found' heq => Except.ok.inj heq ▸ hsame hhasty⟩
  | found _ _ hpending =>
    obtain ⟨hafter, httl, hsame⟩ := timely_absorb hpending (some _) htimely
    exact ⟨hafter, httl, fun hhasty found' heq => Except.ok.inj heq ▸ hsame hhasty⟩
  | passed _ _ hpending _ =>
    obtain ⟨hafter, httl, hsame⟩ := timely_absorb hpending none htimely
    exact ⟨hafter, httl, fun hhasty found' heq => Except.ok.inj heq ▸ hsame hhasty⟩
  | failed _ _ hpending _ =>
    rw [pending_eq, Prod.mk.injEq] at hpending
    obtain ⟨-, rfl⟩ := hpending
    exact ⟨htimely.evictLabels _ _, cache.timeToLive_evictLabels _ _, fun _ _ heq => nomatch heq⟩

/-- **A hasty cache changes no row**, and every cache stays timely. -/
theorem Trace.hasty {now : Rat} {columns : Dict Registry.LookupSource} {found : List Row}
    {cache cache' : LookupCache} {calls : List Exchange} {outcome : Except Failure (List Row)}
    (h : Trace now columns found cache calls outcome cache') (htimely : cache.Timely now) :
    cache'.Timely now ∧ (cache.Hasty → ∀ found', outcome = .ok found' → found' = found) := by
  induction h with
  | done => exact ⟨htimely, fun _ found' heq => (Except.ok.inj heq).symm⟩
  | @step _ _ _ _ _ cache cache' _ _ _ _ hcolumn _ ih =>
    obtain ⟨hafter, httl, hsame⟩ := hcolumn.timely htimely
    obtain ⟨hlast, hrest⟩ := ih hafter
    refine ⟨hlast, fun hhasty found' heq => ?_⟩
    have hhasty' : cache'.Hasty := by rwa [LookupCache.Hasty, httl]
    rw [hrest hhasty' found' heq, hsame hhasty _ rfl]
  | failed hcolumn =>
    exact ⟨(hcolumn.timely htimely).1, fun _ _ heq => nomatch heq⟩

theorem Reached.timely {ds : DataSource σ} {lookups : Registry.Lookups}
    {timeToLive : Option Rat} {now : Rat} {cache : LookupCache}
    (h : Reached ds lookups timeToLive now cache) : cache.Timely now := by
  induction h with
  | fresh now => exact ⟨fun _ _ heq => (nomatch heq), fun _ _ => rfl⟩
  | later _ hlater ih => exact ih.later hlater
  | @resolved now s found table _ ih =>
    exact ((rows_trace ds lookups now found table s).2.hasty ih).1
  | cleared _ _ => exact ⟨fun _ _ heq => (nomatch heq), fun _ _ => rfl⟩
  | listed options _ ih => exact ⟨ih.past, ih.timed⟩

end Resolve

end TableExplorer
