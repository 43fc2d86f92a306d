import Mathlib.Data.List.Basic
import Mathlib.Data.List.Induction
import TableExplorer.Proofs.LookupCache

/-!
# The lifetime of cached labels

What a cache answers depends on its whole past: on what was merged, on clearing, and on the reads
that found something expired, since those remove it. For each key the past comes down to the merges
since it was last emptied (`Merges.ofHistory`). They are told from the history alone, and the cache
is their union as long as the first of them is not too long ago.

`Agrees` relates a cache to what its history says of every key, and each operation keeps it.

Main result: `labels_lifetime`.
-/

namespace TableExplorer

namespace LookupCache

/-! ## Histories -/

/-- A use of a cache. -/
inductive Operation
  | setOptions (key : String) (options : List LookupOption)
  | getOptions (key : String)
  | readLabels (key : String)
  | missingIds (key : String) (ids : List String)
  | mergeLabels (key : String) (labels : Labels)
  | clear
  | stats

/-- A use of a cache at a time. -/
structure Event where
  time : Rat
  operation : Operation

def after (c : LookupCache) (e : Event) : LookupCache :=
  match e.operation with
  | .setOptions key options => c.setOptions e.time key options
  | .getOptions key => (c.getOptions e.time key).2
  | .readLabels key => (c.readLabels e.time key).2
  | .missingIds key ids => (c.missingIds e.time key ids).2
  | .mergeLabels key labels => c.mergeLabels e.time key labels
  | .clear => c.clear
  | .stats => c

/-- The cache after all uses of a history, from an empty one on. -/
def ofHistory (timeToLive : Option Rat) (history : List Event) : LookupCache :=
  history.foldl after { timeToLive }

/-! ## What a history says of a key -/

/-- Merges of labels under one key, with their times, the first one first. -/
abbrev Merges := List (Rat × Labels)

namespace Merges

/-- There are merges, and the first is recent. -/
def isLive (timeToLive : Option Rat) (now : Rat) : Merges → Bool
  | [] => false
  | (first, _) :: _ => isRecent timeToLive now first

/-- All labels that were merged; later merges win. -/
def union (m : Merges) : Labels := m.foldl (fun known p => Dict.merge known p.2) []

/-- What counts after one more use of the cache. A read that finds what is there expired, and a
clear, leave nothing. -/
def next (timeToLive : Option Rat) (key : String) (m : Merges) (e : Event) : Merges :=
  match e.operation with
  | .mergeLabels k labels => if k = key then m ++ [(e.time, labels)] else m
  | .readLabels k | .missingIds k _ =>
    if k = key ∧ m.isLive timeToLive e.time = false then [] else m
  | .clear => []
  | .setOptions _ _ | .getOptions _ | .stats => m

/-- The merges under a key since it was last emptied. -/
def ofHistory (timeToLive : Option Rat) (key : String) (history : List Event) : Merges :=
  history.foldl (next timeToLive key) []

end Merges

/-- The choice list under a key with its time, after one more use of the cache. -/
def nextOptions (timeToLive : Option Rat) (key : String) (entry : Option (Rat × List LookupOption))
    (e : Event) : Option (Rat × List LookupOption) :=
  match e.operation with
  | .setOptions k options => if k = key then some (e.time, options) else entry
  | .getOptions k => if k = key then entry.filter fun p => isRecent timeToLive e.time p.1 else entry
  | .clear => none
  | .readLabels _ | .missingIds _ _ | .mergeLabels _ _ | .stats => entry

/-- The choice list under a key with its time, as a history leaves it. -/
def optionsOfHistory (timeToLive : Option Rat) (key : String) (history : List Event) :
    Option (Rat × List LookupOption) :=
  history.foldl (nextOptions timeToLive key) none

/-! ## The cache is what its history says -/

/-- A cache holds, under every key, what is said of it. -/
structure Agrees (timeToLive : Option Rat) (m : String → Merges)
    (entries : String → Option (Rat × List LookupOption)) (c : LookupCache) : Prop where
  timeToLive_eq : c.timeToLive = timeToLive
  labels : ∀ key, Dict.get? c.labels key = if m key = [] then none else some (m key).union
  loadedAt : ∀ key, Dict.get? c.loadedAt key = (m key).head?.map Prod.fst
  options : ∀ key, Dict.get? c.options key = entries key
  nodup_labels : (Dict.keys c.labels).Nodup
  nodup_options : (Dict.keys c.options).Nodup

variable {timeToLive : Option Rat} {m : String → Merges}
  {entries : String → Option (Rat × List LookupOption)} {c : LookupCache}

theorem agrees_empty (timeToLive : Option Rat) :
    Agrees timeToLive (fun _ => []) (fun _ => none) { timeToLive } :=
  ⟨rfl, fun _ => rfl, fun _ => rfl, fun _ => rfl, List.nodup_nil, List.nodup_nil⟩

/-- Labels are stale exactly if there are some, and they are not live. -/
theorem Agrees.stale_eq (h : Agrees timeToLive m entries c) (now : Rat) (key : String) :
    c.stale now key = (!(m key).isEmpty && !(m key).isLive timeToLive now) := by
  unfold stale
  rw [h.loadedAt]
  cases hm : m key with
  | nil => rfl
  | cons first rest =>
    show c.isExpired now first.1 = !isRecent timeToLive now first.1
    rw [isExpired_eq_not_isRecent, h.timeToLive_eq]

theorem Agrees.heldLabels_eq (h : Agrees timeToLive m entries c) (key : String) :
    c.heldLabels key = (m key).union := by
  rw [heldLabels, h.labels]
  by_cases hm : m key = []
  · rw [if_pos hm, hm]
    rfl
  · rw [if_neg hm]
    rfl

theorem Agrees.evictLabels (h : Agrees timeToLive m entries c) (now : Rat) (key : String) :
    Agrees timeToLive
      (fun k => if key = k ∧ (m k).isLive timeToLive now = false then [] else m k) entries
      (c.evictLabels now key) := by
  -- What is not live either is stale, or is not there at all.
  have hstale : ∀ k, (c.stale now key = true ∧ k = key) ∨ m k = [] ↔
      (key = k ∧ (m k).isLive timeToLive now = false) ∨ m k = [] := by
    intro k
    rw [h.stale_eq]
    by_cases hk : k = key
    · subst hk
      cases m k <;> simp
    · simp [hk, Ne.symm hk]
  constructor
  case timeToLive_eq => simpa using h.timeToLive_eq
  case labels =>
    intro k
    rw [get?_labels_evictLabels, h.labels]
    have hk := hstale k
    by_cases hempty : m k = []
    · simp [hempty]
    · simp only [hempty, or_false] at hk
      simp only [hk, hempty, if_false]
      split <;> simp [*]
  case loadedAt =>
    intro k
    rw [get?_loadedAt_evictLabels, h.loadedAt]
    have hk := hstale k
    by_cases hempty : m k = []
    · simp [hempty]
    · simp only [hempty, or_false] at hk
      simp only [hk]
      split <;> rfl
  case options =>
    intro k
    rw [options_evictLabels]
    exact h.options k
  case nodup_labels =>
    rw [evictLabels_eq]
    split
    · rw [Dict.keys_erase]
      exact h.nodup_labels.filter _
    · exact h.nodup_labels
  case nodup_options =>
    rw [options_evictLabels]
    exact h.nodup_options

theorem Agrees.getOptions (h : Agrees timeToLive m entries c) (now : Rat) (key : String) :
    Agrees timeToLive m
      (fun k => if key = k then (entries k).filter fun p => isRecent timeToLive now p.1
        else entries k)
      (c.getOptions now key).2 := by
  constructor
  case timeToLive_eq => rw [timeToLive_getOptions, h.timeToLive_eq]
  case labels => simpa only [getOptions_eq] using h.labels
  case loadedAt => simpa only [getOptions_eq] using h.loadedAt
  case options =>
    intro k
    rw [get?_options_getOptions]
    by_cases hk : key = k
    · subst hk
      rw [if_pos rfl, if_pos rfl, liveOptions, h.options, h.timeToLive_eq]
    · rw [if_neg (Ne.symm hk), if_neg hk]
      exact h.options k
  case nodup_labels => simpa only [getOptions_eq] using h.nodup_labels
  case nodup_options =>
    rw [getOptions_eq]
    by_cases hlive : (c.liveOptions now key).isSome
    · simpa only [hlive, if_true] using h.nodup_options
    · simp only [hlive, Bool.false_eq_true, if_false, Dict.keys_erase]
      exact h.nodup_options.filter _

theorem Merges.union_append (m : Merges) (now : Rat) (labels : Labels) :
    union (m ++ [(now, labels)]) = Dict.merge m.union labels := by
  rw [union, List.foldl_append]
  rfl

theorem Agrees.mergeLabels (h : Agrees timeToLive m entries c) (now : Rat) (key : String)
    (labels : Labels) :
    Agrees timeToLive (fun k => if key = k then m k ++ [(now, labels)] else m k) entries
      (c.mergeLabels now key labels) := by
  refine { h with labels := fun k => ?_, loadedAt := fun k => ?_, nodup_labels := ?_ }
  · show Dict.get? (Dict.insert c.labels key (Dict.merge (c.heldLabels key) labels)) k = _
    rw [Dict.get?_insert]
    by_cases hk : key = k
    · subst hk
      rw [if_pos rfl, if_pos rfl, if_neg (by simp), Merges.union_append, h.heldLabels_eq]
    · rw [if_neg (Ne.symm hk), if_neg hk]
      exact h.labels k
  · rw [get?_loadedAt_mergeLabels]
    by_cases hk : key = k
    · subst hk
      rw [if_pos rfl, if_pos rfl, h.loadedAt]
      cases m key <;> rfl
    · rw [if_neg (Ne.symm hk), if_neg hk]
      exact h.loadedAt k
  · exact Dict.nodup_keys_insert h.nodup_labels _ _

theorem Agrees.setOptions (h : Agrees timeToLive m entries c) (now : Rat) (key : String)
    (options : List LookupOption) :
    Agrees timeToLive m (fun k => if key = k then some (now, options) else entries k)
      (c.setOptions now key options) := by
  refine { h with options := fun k => ?_, nodup_options := ?_ }
  · show Dict.get? (Dict.insert c.options key (now, options)) k = _
    rw [Dict.get?_insert, h.options]
    by_cases hk : key = k
    · rw [if_pos hk, if_pos hk.symm]
    · rw [if_neg hk, if_neg (Ne.symm hk)]
  · exact Dict.nodup_keys_insert h.nodup_options _ _

/-- **Each use of a cache does to every key what is said of it.** -/
theorem Agrees.after (h : Agrees timeToLive m entries c) (e : Event) :
    Agrees timeToLive (fun k => (m k).next timeToLive k e)
      (fun k => nextOptions timeToLive k (entries k) e) (c.after e) := by
  obtain ⟨now, operation⟩ := e
  cases operation with
  | setOptions key options => exact h.setOptions now key options
  | getOptions key => exact h.getOptions now key
  | readLabels key => exact h.evictLabels now key
  | missingIds key ids => exact h.evictLabels now key
  | mergeLabels key labels => exact h.mergeLabels now key labels
  | clear =>
    exact ⟨h.timeToLive_eq, fun _ => rfl, fun _ => rfl, fun _ => rfl, List.nodup_nil,
      List.nodup_nil⟩
  | stats => exact h

/-- **A cache is what its history says.** -/
theorem agrees_ofHistory (timeToLive : Option Rat) (history : List Event) :
    Agrees timeToLive (fun k => Merges.ofHistory timeToLive k history)
      (fun k => optionsOfHistory timeToLive k history) (ofHistory timeToLive history) := by
  induction history using List.reverseRecOn with
  | nil => exact agrees_empty timeToLive
  | append_singleton history e ih =>
    have hafter := ih.after e
    simp only [ofHistory, Merges.ofHistory, optionsOfHistory, List.foldl_append, List.foldl_cons,
      List.foldl_nil] at hafter ⊢
    exact hafter

/-! ## Reading -/

theorem Agrees.readLabels_eq (h : Agrees timeToLive m entries c) (now : Rat) (key : String) :
    (c.readLabels now key).1 =
      if (m key).isLive timeToLive now then (m key).union else [] := by
  show (c.evictLabels now key).heldLabels key = _
  rw [(h.evictLabels now key).heldLabels_eq]
  cases (m key).isLive timeToLive now <;> simp [Merges.union]

theorem missingIds_eq (c : LookupCache) (now : Rat) (key : String) (ids : List String) :
    (c.missingIds now key ids).1 =
      ids.filter fun id => id ∉ Dict.keys (c.readLabels now key).1 := by
  refine List.filter_congr fun id _ => ?_
  rw [Bool.eq_iff_iff]
  simp only [← Dict.contains_iff_mem_keys, Bool.not_eq_true', decide_eq_true_eq, Bool.not_eq_true]
  rfl

/-! ## The last merge of an identifier -/

/-- The event labels an identifier under a key. -/
def Event.Labels (key id : String) (e : Event) : Prop :=
  ∃ labels, e.operation = .mergeLabels key labels ∧ id ∈ Dict.keys labels

namespace Merges

/-- An event adds a merge, or leaves what counts as it is, or empties the key. -/
theorem next_cases (timeToLive : Option Rat) (key : String) (m : Merges) (e : Event) :
    (∃ labels, e.operation = .mergeLabels key labels ∧
      m.next timeToLive key e = m ++ [(e.time, labels)]) ∨
    ((∀ labels, e.operation ≠ .mergeLabels key labels) ∧
      (m.next timeToLive key e = m ∨ m.next timeToLive key e = [])) := by
  obtain ⟨now, operation⟩ := e
  cases operation with
  | mergeLabels k labels =>
    by_cases hk : k = key
    · subst hk
      exact .inl ⟨labels, rfl, if_pos rfl⟩
    · refine .inr ⟨?_, .inl (if_neg hk)⟩
      rintro _ ⟨⟩
      exact hk rfl
  | readLabels k | missingIds k ids =>
    refine .inr ⟨nofun, ?_⟩
    by_cases hempties : k = key ∧ m.isLive timeToLive now = false
    · exact .inr (if_pos hempties)
    · exact .inl (if_neg hempties)
  | clear => exact .inr ⟨nofun, .inr rfl⟩
  | setOptions | getOptions | stats => exact .inr ⟨nofun, .inl rfl⟩

theorem ofHistory_append (timeToLive : Option Rat) (key : String) (history : List Event)
    (e : Event) :
    ofHistory timeToLive key (history ++ [e]) =
      (ofHistory timeToLive key history).next timeToLive key e :=
  List.foldl_append

theorem times_sublist (timeToLive : Option Rat) (key : String) (history : List Event) :
    ((ofHistory timeToLive key history).map Prod.fst).Sublist (history.map Event.time) := by
  induction history using List.reverseRecOn with
  | nil => exact List.Sublist.refl _
  | append_singleton history e ih =>
    rw [ofHistory_append, List.map_append, List.map_singleton]
    rcases next_cases timeToLive key (ofHistory timeToLive key history) e with
      ⟨labels, -, hnext⟩ | ⟨-, hnext | hnext⟩
    · rw [hnext, List.map_append]
      exact ih.append (List.Sublist.refl _)
    · rw [hnext]
      exact ih.trans (List.sublist_append_left _ _)
    · rw [hnext]
      exact List.nil_sublist _

/-- If the first of merges in the order of time is recent, so is every other. -/
theorem recent_of_isLive {timeToLive : Option Rat} {m : Merges} {now time ttl : Rat}
    {labels : Labels} (hclock : (m.map Prod.fst).Pairwise (· ≤ ·))
    (hlive : m.isLive timeToLive now) (h : (time, labels) ∈ m) (httl : timeToLive = some ttl) :
    now - time ≤ ttl := by
  subst httl
  cases m with
  | nil => cases h
  | cons first rest =>
    have hfirst : now - first.1 ≤ ttl := of_decide_eq_true hlive
    have hle : first.1 ≤ time := by
      rcases List.mem_cons.1 h with heq | hrest
      · cases heq
        exact Rat.le_refl
      · rw [List.map_cons, List.pairwise_cons] at hclock
        exact hclock.1 time (List.mem_map_of_mem (f := Prod.fst) hrest)
    grind

/-- The last event of a history that labels an identifier gives it this label, and is one of the
merges. -/
def LastMerge (key id label : String) (history : List Event) (m : Merges) : Prop :=
  ∃ earlier later time labels,
    history = earlier ++ { time, operation := .mergeLabels key labels } :: later ∧
      (id, label) ∈ labels ∧ (∀ e ∈ later, ¬ e.Labels key id) ∧ (time, labels) ∈ m

theorem LastMerge.append {key id label : String} {history : List Event} {m m' : Merges}
    (h : LastMerge key id label history m) {e : Event} (he : ¬ e.Labels key id) (hsub : m ⊆ m') :
    LastMerge key id label (history ++ [e]) m' := by
  obtain ⟨earlier, later, time, labels, heq, hlabel, hlater, hmem⟩ := h
  refine ⟨earlier, later ++ [e], time, labels, ?_, hlabel, ?_, hsub hmem⟩
  · rw [heq, List.append_assoc, List.cons_append]
  · intro x hx
    rcases List.mem_append.1 hx with hx | hx
    · exact hlater x hx
    · rwa [List.mem_singleton.1 hx]

/-- A label in the union of what counts was merged by the last event that labels its identifier. -/
theorem lastMerge_of_union {timeToLive : Option Rat} {key : String} {history : List Event}
    {id label : String}
    (h : Dict.get? (ofHistory timeToLive key history).union id = some label) :
    LastMerge key id label history (ofHistory timeToLive key history) := by
  induction history using List.reverseRecOn with
  | nil => cases h
  | append_singleton history e ih =>
    rw [ofHistory_append] at h ⊢
    rcases next_cases timeToLive key (ofHistory timeToLive key history) e with
      ⟨labels, hoperation, hnext⟩ | ⟨hother, hnext | hnext⟩
    · rw [hnext, union_append, Dict.get?_merge_reverse] at h
      cases hnew : Dict.get? labels.reverse id with
      | some found =>
        rw [hnew, Option.some_or] at h
        cases h
        have hlabel := List.mem_reverse.1 (Dict.mem_of_get? hnew)
        exact ⟨history, [], e.time, labels, by rw [← hoperation], hlabel, by simp, by simp [hnext]⟩
      | none =>
        rw [hnew, Option.none_or] at h
        apply (ih h).append
        · rintro ⟨labels', hsame, hmem⟩
          cases hoperation.symm.trans hsame
          rw [Dict.get?_eq_none_iff, Dict.keys, List.map_reverse, List.mem_reverse] at hnew
          exact hnew hmem
        · rw [hnext]
          exact List.subset_append_left _ _
    · rw [hnext] at h ⊢
      apply (ih h).append
      · rintro ⟨labels, hsame, -⟩
        exact hother labels hsame
      · exact fun _ hmem => hmem
    · rw [hnext] at h
      cases h

end Merges

/-! ## Other keys do not matter -/

/-- The event can matter to the labels of a key. -/
def Event.concerns (key : String) (e : Event) : Bool :=
  match e.operation with
  | .mergeLabels k _ | .readLabels k | .missingIds k _ => k = key
  | .clear => true
  | .setOptions _ _ | .getOptions _ | .stats => false

theorem Merges.next_of_not_concerns {timeToLive : Option Rat} {key : String} {m : Merges}
    {e : Event} (h : e.concerns key = false) : m.next timeToLive key e = m := by
  obtain ⟨now, operation⟩ := e
  cases operation with
  | mergeLabels k labels | readLabels k | missingIds k ids =>
    have hk : k ≠ key := of_decide_eq_false h
    simp [next, hk]
  | clear => cases h
  | setOptions | getOptions | stats => rfl

theorem Merges.ofHistory_filter (timeToLive : Option Rat) (key : String) (history : List Event) :
    ofHistory timeToLive key (history.filter (Event.concerns key)) =
      ofHistory timeToLive key history := by
  rw [ofHistory, List.foldl_filter, ofHistory]
  congr 1
  funext m e
  split
  · rfl
  next h => exact (next_of_not_concerns (Bool.eq_false_iff.2 h)).symm

/-! ## What is counted -/

theorem foldl_length (d : Dict Labels) (n : Nat) :
    d.foldl (fun n p => n + p.2.length) n = n + (d.flatMap Prod.snd).length := by
  induction d generalizing n with
  | nil => rfl
  | cons p d ih =>
    rw [List.foldl_cons, ih, List.flatMap_cons, List.length_append, Nat.add_assoc]

theorem Agrees.stats_eq (h : Agrees timeToLive m entries c) :
    c.stats = {
      optionLists := (Dict.keys c.options).length
      labelSources := (Dict.keys c.labels).length
      labels := ((Dict.keys c.labels).flatMap fun key => (m key).union).length } := by
  have hunion : ∀ p ∈ c.labels, p.2 = (m p.1).union := by
    intro p hp
    have hget := h.labels p.1
    rw [Dict.get?_of_mem h.nodup_labels hp] at hget
    by_cases hm : m p.1 = []
    · rw [if_pos hm] at hget
      cases hget
    · rw [if_neg hm] at hget
      exact Option.some.inj hget
  have hheld : c.labels.flatMap Prod.snd =
      (Dict.keys c.labels).flatMap fun key => (m key).union := by
    rw [Dict.keys, List.flatMap_map]
    exact List.flatMap_congr hunion
  rw [← hheld]
  simp [stats, Dict.keys, foldl_length]

theorem Agrees.mem_keys_labels (h : Agrees timeToLive m entries c) (key : String) :
    key ∈ Dict.keys c.labels ↔ m key ≠ [] := by
  rw [← Dict.contains_iff_mem_keys, Dict.contains, h.labels]
  by_cases hm : m key = [] <;> simp [hm]

theorem Agrees.mem_keys_loadedAt (h : Agrees timeToLive m entries c) (key : String) :
    key ∈ Dict.keys c.loadedAt ↔ m key ≠ [] := by
  rw [← Dict.contains_iff_mem_keys, Dict.contains, h.loadedAt]
  cases m key <;> simp

theorem Agrees.mem_keys_options (h : Agrees timeToLive m entries c) (key : String) :
    key ∈ Dict.keys c.options ↔ entries key ≠ none := by
  rw [← Dict.contains_iff_mem_keys, Dict.contains, h.options]
  cases entries key <;> simp

/-- **The lifetime of cached labels.** After any uses of a cache, with any time to live, what it
knows under a key are the labels merged there since the key was last emptied, later ones first, if
the first of these merges is recent, and nothing otherwise. So, as long as the clock does not run
backwards, no label is known whose last merge is longer ago than the time to live. Identifiers are
missing if they have no known label. Labels and the times of their first merges are held for the
same keys, and counted as they are held; what was done to other keys or to choice lists does not
matter. -/
theorem labels_lifetime (timeToLive : Option Rat) (history : List Event)
    (hclock : (history.map Event.time).Pairwise (· ≤ ·)) (now : Rat) (key : String) :
    let c := ofHistory timeToLive history
    let merges := fun k => Merges.ofHistory timeToLive k history
    let known := (c.readLabels now key).1
    known = (if (merges key).isLive timeToLive now then (merges key).union else []) ∧
    (∀ ids, (c.missingIds now key ids).1 = ids.filter fun id => id ∉ Dict.keys known) ∧
    (∀ id label, Dict.get? known id = some label → ∃ earlier later time labels,
      history = earlier ++ { time, operation := .mergeLabels key labels } :: later ∧
        (id, label) ∈ labels ∧ (∀ e ∈ later, ¬ e.Labels key id) ∧
        ∀ ttl, timeToLive = some ttl → now - time ≤ ttl) ∧
    (∀ k, k ∈ Dict.keys c.labels ↔ k ∈ Dict.keys c.loadedAt) ∧
    (∃ lists sources : List String, lists.Nodup ∧ sources.Nodup ∧
      (∀ k, k ∈ lists ↔ optionsOfHistory timeToLive k history ≠ none) ∧
      (∀ k, k ∈ sources ↔ merges k ≠ []) ∧
      c.stats = {
        optionLists := lists.length
        labelSources := sources.length
        labels := (sources.flatMap fun k => (merges k).union).length }) ∧
    ((ofHistory timeToLive (history.filter (Event.concerns key))).readLabels now key).1 =
      known := by
  intro c merges known
  have hagrees := agrees_ofHistory timeToLive history
  have hknown : known = if (merges key).isLive timeToLive now then (merges key).union else [] :=
    hagrees.readLabels_eq now key
  refine ⟨hknown, fun ids => missingIds_eq c now key ids, fun id label hlabel => ?_, fun k => ?_,
    ⟨Dict.keys c.options, Dict.keys c.labels, hagrees.nodup_options, hagrees.nodup_labels,
      hagrees.mem_keys_options, hagrees.mem_keys_labels, hagrees.stats_eq⟩, ?_⟩
  · rw [hknown] at hlabel
    split at hlabel
    next hlive =>
      obtain ⟨earlier, later, time, labels, heq, hmem, hlater, hcounts⟩ :=
        Merges.lastMerge_of_union hlabel
      refine ⟨earlier, later, time, labels, heq, hmem, hlater, fun ttl httl => ?_⟩
      exact Merges.recent_of_isLive (hclock.sublist (Merges.times_sublist _ _ _)) hlive hcounts httl
    · cases hlabel
  · exact (hagrees.mem_keys_labels k).trans (hagrees.mem_keys_loadedAt k).symm
  · rw [hknown, (agrees_ofHistory timeToLive _).readLabels_eq, Merges.ofHistory_filter]

/-- Labels of sellers that were merged at 0 and at 5, with a time to live of 10. A read at 4 and a
merge under another key do not matter; the first merge counts for both, so at 11 nothing is known,
although one of them is younger than 10. -/
theorem labels_lifetime_sellers :
    let history : List Event := [
      ⟨0, .mergeLabels "vendedores.nome" [("v1", "Ana")]⟩,
      ⟨4, .readLabels "vendedores.nome"⟩,
      ⟨5, .mergeLabels "vendedores.nome" [("v2", "Bruno"), ("v1", "Anna")]⟩,
      ⟨7, .mergeLabels "lojas.nome" [("l1", "Centro")]⟩]
    let c := ofHistory (some 10) history
    (history.map Event.time).Pairwise (· ≤ ·) ∧
      (c.readLabels 8 "vendedores.nome").1 = [("v1", "Anna"), ("v2", "Bruno")] ∧
      (c.missingIds 8 "vendedores.nome" ["v3", "v1", "v3"]).1 = ["v3", "v3"] ∧
      (c.readLabels 11 "vendedores.nome").1 = [] := by
  intro history c
  have hclock : (history.map Event.time).Pairwise (· ≤ ·) := by decide
  have h8 := labels_lifetime (some 10) history hclock 8 "vendedores.nome"
  have h11 := labels_lifetime (some 10) history hclock 11 "vendedores.nome"
  have hknown : (c.readLabels 8 "vendedores.nome").1 = [("v1", "Anna"), ("v2", "Bruno")] :=
    h8.1.trans (by decide +kernel)
  refine ⟨hclock, hknown, ?_, h11.1.trans (by decide +kernel)⟩
  rw [h8.2.1, hknown]
  decide

end LookupCache

end TableExplorer
