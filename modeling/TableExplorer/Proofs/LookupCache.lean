import TableExplorer.LookupCache
import TableExplorer.Proofs.Dict

/-!
# Laws of the label cache

Every read first evicts what has expired, so reading is the question whether the labels of a source
are stale, or whether a choice list is live. Reading and writing concern one key and leave the
others as they are. With a time to live that is not negative, labels that are merged right after an
eviction can be read at the same time.
-/

namespace TableExplorer.LookupCache

variable (c : LookupCache) (now : Rat) (key : String) (labels : Labels)

/-- Whether the labels of a source have expired. -/
def stale : Bool := (Dict.get? c.loadedAt key).any (c.isExpired now)

/-- Whether labels outlive the moment at which they are stored. -/
def Lasting : Prop := ∀ ttl, c.timeToLive = some ttl → 0 ≤ ttl

/-! ## Expiry -/

/-- What was stored is not longer ago than the time to live. -/
def isRecent (timeToLive : Option Rat) (now storedAt : Rat) : Bool :=
  timeToLive.all fun ttl => decide (now - storedAt ≤ ttl)

theorem isExpired_eq_not_isRecent (storedAt : Rat) :
    c.isExpired now storedAt = !isRecent c.timeToLive now storedAt := by
  unfold isExpired isRecent
  cases c.timeToLive with
  | none => rfl
  | some ttl =>
    show decide (ttl < now - storedAt) = !decide (now - storedAt ≤ ttl)
    rw [← decide_not, decide_eq_decide]
    exact Rat.not_le.symm

theorem isRecent_mono {timeToLive : Option Rat} {now later storedAt : Rat} (hle : now ≤ later)
    (h : isRecent timeToLive later storedAt) : isRecent timeToLive now storedAt := by
  cases timeToLive with
  | none => rfl
  | some ttl =>
    have hrecent : later - storedAt ≤ ttl := of_decide_eq_true h
    have hnow : now - storedAt ≤ ttl := by grind
    exact decide_eq_true hnow

theorem filter_isRecent {α : Type} (timeToLive : Option Rat) {now later : Rat} (hle : now ≤ later)
    (stored : Option (Rat × α)) :
    (stored.filter fun p => isRecent timeToLive now p.1).filter
        (fun p => isRecent timeToLive later p.1) =
      stored.filter fun p => isRecent timeToLive later p.1 := by
  rw [Option.filter_filter]
  congr 1
  funext p
  by_cases hlater : isRecent timeToLive later p.1
  · simp [hlater, isRecent_mono hle hlater]
  · simp [hlater]

/-! ## Choice lists -/

/-- The choice list under a key with its time, unless it has expired. -/
def liveOptions : Option (Rat × List LookupOption) :=
  (Dict.get? c.options key).filter fun p => isRecent c.timeToLive now p.1

/-- A read finds what is live, and removes what is not. -/
theorem getOptions_eq :
    c.getOptions now key = ((c.liveOptions now key).map Prod.snd,
      { c with options := if (c.liveOptions now key).isSome then c.options
          else Dict.erase c.options key }) := by
  unfold getOptions liveOptions
  cases hentry : Dict.get? c.options key with
  | none => simp [Dict.erase_of_get?_eq_none hentry]
  | some entry =>
    simp only [isExpired_eq_not_isRecent]
    cases hrecent : isRecent c.timeToLive now entry.1 <;> simp [Option.filter, hrecent]

@[simp] theorem timeToLive_getOptions :
    (c.getOptions now key).2.timeToLive = c.timeToLive := by
  rw [getOptions_eq]

theorem get?_options_getOptions (other : String) :
    Dict.get? (c.getOptions now key).2.options other =
      if other = key then c.liveOptions now key else Dict.get? c.options other := by
  rw [getOptions_eq]
  show Dict.get? (if (c.liveOptions now key).isSome then c.options
    else Dict.erase c.options key) other = _
  cases hlive : c.liveOptions now key with
  | none => simp [Dict.get?_erase]
  | some entry =>
    rw [Option.isSome_some, if_pos rfl]
    by_cases hother : other = key
    · rw [if_pos hother, hother]
      exact (Option.filter_eq_some_iff.1 hlive).1
    · rw [if_neg hother]

@[simp] theorem liveOptions_getOptions (other : String) :
    (c.getOptions now key).2.liveOptions now other = c.liveOptions now other := by
  rw [liveOptions, get?_options_getOptions, timeToLive_getOptions]
  by_cases hother : other = key
  · rw [if_pos hother, hother, liveOptions, filter_isRecent _ Rat.le_refl]
  · rw [if_neg hother, liveOptions]

theorem liveOptions_setOptions (options : List LookupOption) (other : String) :
    (c.setOptions now key options).liveOptions now other =
      if other = key then (some (now, options)).filter fun p => isRecent c.timeToLive now p.1
      else c.liveOptions now other := by
  show (Dict.get? (Dict.insert c.options key (now, options)) other).filter _ = _
  rw [Dict.get?_insert]
  split <;> rfl

/-! ## Eviction -/

theorem evictLabels_eq :
    c.evictLabels now key =
      if c.stale now key then
        { c with labels := Dict.erase c.labels key, loadedAt := Dict.erase c.loadedAt key }
      else c := by
  unfold evictLabels stale
  cases Dict.get? c.loadedAt key with
  | none => rfl
  | some storedAt => rfl

theorem evictLabels_of_not_stale (h : c.stale now key = false) : c.evictLabels now key = c := by
  rw [evictLabels_eq, h, if_neg Bool.false_ne_true]

@[simp] theorem timeToLive_evictLabels :
    (c.evictLabels now key).timeToLive = c.timeToLive := by
  rw [evictLabels_eq]
  split <;> rfl

theorem get?_loadedAt_evictLabels (other : String) :
    Dict.get? (c.evictLabels now key).loadedAt other =
      if c.stale now key ∧ other = key then none else Dict.get? c.loadedAt other := by
  rw [evictLabels_eq]
  by_cases hstale : c.stale now key <;> simp [hstale, Dict.get?_erase]

theorem get?_labels_evictLabels (other : String) :
    Dict.get? (c.evictLabels now key).labels other =
      if c.stale now key ∧ other = key then none else Dict.get? c.labels other := by
  rw [evictLabels_eq]
  by_cases hstale : c.stale now key <;> simp [hstale, Dict.get?_erase]

@[simp] theorem options_evictLabels : (c.evictLabels now key).options = c.options := by
  rw [evictLabels_eq]
  split <;> rfl

theorem heldLabels_evictLabels (other : String) :
    (c.evictLabels now key).heldLabels other =
      if c.stale now key ∧ other = key then [] else c.heldLabels other := by
  rw [heldLabels, get?_labels_evictLabels]
  split <;> rfl

theorem isExpired_congr {c d : LookupCache} (h : c.timeToLive = d.timeToLive) :
    c.isExpired = d.isExpired := by
  funext now storedAt
  rw [isExpired, isExpired, h]

theorem stale_evictLabels : (c.evictLabels now key).stale now key = false := by
  rw [stale, get?_loadedAt_evictLabels, isExpired_congr (c.timeToLive_evictLabels now key)]
  cases hstale : c.stale now key with
  | false => simpa [stale] using hstale
  | true => simp

/-! ## Merging -/

@[simp] theorem timeToLive_mergeLabels :
    (c.mergeLabels now key labels).timeToLive = c.timeToLive := rfl

theorem heldLabels_mergeLabels (other : String) :
    (c.mergeLabels now key labels).heldLabels other =
      if other = key then Dict.merge (c.heldLabels key) labels else c.heldLabels other := by
  show (Dict.get? (Dict.insert c.labels key _) other).getD [] = _
  rw [Dict.get?_insert]
  split <;> rfl

/-- The time of the first merge counts. -/
theorem get?_loadedAt_mergeLabels (other : String) :
    Dict.get? (c.mergeLabels now key labels).loadedAt other =
      if other = key then some ((Dict.get? c.loadedAt key).getD now)
      else Dict.get? c.loadedAt other := by
  show Dict.get? (if Dict.contains c.loadedAt key then c.loadedAt
    else Dict.insert c.loadedAt key now) other = _
  rw [Dict.contains]
  cases hloaded : Dict.get? c.loadedAt key with
  | none =>
    rw [Option.isSome_none, if_neg Bool.false_ne_true, Dict.get?_insert]
    rfl
  | some storedAt =>
    rw [Option.isSome_some, if_pos rfl]
    by_cases hother : other = key
    · rw [if_pos hother, hother, hloaded]
      rfl
    · rw [if_neg hother]

theorem isExpired_self : c.isExpired now now = c.timeToLive.any fun ttl => decide (ttl < 0) := by
  unfold isExpired
  cases c.timeToLive with
  | none => rfl
  | some ttl =>
    show decide (ttl < now - now) = decide (ttl < 0)
    rw [Rat.sub_self]

theorem Lasting.isExpired_self {c : LookupCache} (h : c.Lasting) :
    c.isExpired now now = false := by
  rw [LookupCache.isExpired_self]
  cases httl : c.timeToLive with
  | none => rfl
  | some ttl => exact decide_eq_false (Rat.not_lt.2 (h ttl httl))

theorem stale_mergeLabels (hlasting : c.Lasting) (h : c.stale now key = false) :
    (c.mergeLabels now key labels).stale now key = false := by
  rw [stale, get?_loadedAt_mergeLabels, if_pos rfl,
    isExpired_congr (c.timeToLive_mergeLabels now key labels)]
  rw [stale] at h
  cases hloaded : Dict.get? c.loadedAt key with
  | none => exact hlasting.isExpired_self now
  | some storedAt => rwa [hloaded] at h

end TableExplorer.LookupCache
