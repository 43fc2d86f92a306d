import TableExplorer.Proofs.LookupCache.Lifetime

/-!
# The lifetime of cached choice lists

A choice list is removed when a read finds it expired. What is expired once stays so, so it does not
matter which reads there were: the cache answers as if it were looking through its history, for the
list stored last under the key, and then at the time of this storing.

`lastStored` is this look through the history. It agrees with what the cache holds
(`optionsOfHistory`) up to lists that have expired, and each use of the cache keeps this.

Main result: `options_lifetime`.
-/

namespace TableExplorer.LookupCache

variable {timeToLive : Option Rat} {key : String} {history : List Event} {now : Rat}

/-- The event stores a choice list under the key, or clears the cache. -/
def Event.settles (key : String) (e : Event) : Bool :=
  match e.operation with
  | .setOptions k _ => k = key
  | .clear => true
  | .getOptions _ | .readLabels _ | .missingIds _ _ | .mergeLabels _ _ | .stats => false

/-- The choice list stored last under a key, with its time, after one more use of the cache. Only
storing and clearing matter. -/
def nextStored (key : String) (entry : Option (Rat × List LookupOption)) (e : Event) :
    Option (Rat × List LookupOption) :=
  match e.operation with
  | .setOptions k options => if k = key then some (e.time, options) else entry
  | .clear => none
  | .getOptions _ | .readLabels _ | .missingIds _ _ | .mergeLabels _ _ | .stats => entry

/-- The choice list stored last under a key since the last clear, with its time. -/
def lastStored (key : String) (history : List Event) : Option (Rat × List LookupOption) :=
  history.foldl (nextStored key) none

theorem lastStored_append (key : String) (history : List Event) (e : Event) :
    lastStored key (history ++ [e]) = nextStored key (lastStored key history) e :=
  List.foldl_append

/-! ## Removing early does not matter -/

/-- One use keeps the agreement: what a read removes has expired for good. -/
theorem filter_nextOptions {e : Event} (hbefore : e.time ≤ now)
    {entry stored : Option (Rat × List LookupOption)}
    (h : (entry.filter fun p => isRecent timeToLive now p.1) =
      stored.filter fun p => isRecent timeToLive now p.1) :
    ((nextOptions timeToLive key entry e).filter fun p => isRecent timeToLive now p.1) =
      (nextStored key stored e).filter fun p => isRecent timeToLive now p.1 := by
  obtain ⟨time, operation⟩ := e
  cases operation with
  | setOptions k options =>
    by_cases hk : k = key
    · simp only [nextOptions, nextStored, if_pos hk]
    · simpa only [nextOptions, nextStored, if_neg hk] using h
  | getOptions k =>
    by_cases hk : k = key
    · simp only [nextOptions, nextStored, if_pos hk]
      rw [filter_isRecent timeToLive hbefore, h]
    · simpa only [nextOptions, nextStored, if_neg hk] using h
  | clear => rfl
  | readLabels | missingIds | mergeLabels | stats => exact h

/-- Up to what has expired, the cache holds what was stored last. -/
theorem filter_optionsOfHistory (hbefore : ∀ e ∈ history, e.time ≤ now) :
    ((optionsOfHistory timeToLive key history).filter fun p => isRecent timeToLive now p.1) =
      (lastStored key history).filter fun p => isRecent timeToLive now p.1 := by
  induction history using List.reverseRecOn with
  | nil => rfl
  | append_singleton history e ih =>
    have hnext : optionsOfHistory timeToLive key (history ++ [e]) =
        nextOptions timeToLive key (optionsOfHistory timeToLive key history) e := List.foldl_append
    rw [hnext, lastStored_append]
    exact filter_nextOptions (hbefore e (by simp)) (ih fun e he => hbefore e (by simp [he]))

/-- A read finds what was stored last, unless it has expired. -/
theorem getOptions_ofHistory (hbefore : ∀ e ∈ history, e.time ≤ now) :
    ((ofHistory timeToLive history).getOptions now key).1 =
      ((lastStored key history).filter fun p => isRecent timeToLive now p.1).map Prod.snd := by
  have hagrees := agrees_ofHistory timeToLive history
  rw [getOptions_eq, liveOptions, hagrees.options, hagrees.timeToLive_eq,
    filter_optionsOfHistory hbefore]

/-! ## What was stored last -/

theorem not_settles_iff {e : Event} :
    e.settles key = false ↔
      e.operation ≠ .clear ∧ ∀ other, e.operation ≠ .setOptions key other := by
  obtain ⟨time, operation⟩ := e
  cases operation <;> simp [Event.settles]

theorem nextStored_of_not_settles {entry : Option (Rat × List LookupOption)} {e : Event}
    (h : e.settles key = false) : nextStored key entry e = entry := by
  obtain ⟨time, operation⟩ := e
  cases operation with
  | setOptions k options => exact if_neg (of_decide_eq_false h)
  | clear => cases h
  | getOptions | readLabels | missingIds | mergeLabels | stats => rfl

/-- What was stored last was stored by an event of the history, and none behind it settles the key
anew. -/
theorem lastStored_eq_some {time : Rat} {options : List LookupOption} :
    lastStored key history = some (time, options) ↔ ∃ earlier later,
      history = earlier ++ ⟨time, .setOptions key options⟩ :: later ∧
        ∀ e ∈ later, e.settles key = false := by
  constructor
  · intro h
    induction history using List.reverseRecOn with
    | nil => cases h
    | append_singleton history e ih =>
      rw [lastStored_append] at h
      cases hsettles : e.settles key with
      | false =>
        rw [nextStored_of_not_settles hsettles] at h
        obtain ⟨earlier, later, rfl, hlater⟩ := ih h
        refine ⟨earlier, later ++ [e], by simp, fun x hx => ?_⟩
        rcases List.mem_append.1 hx with hx | hx
        · exact hlater x hx
        · rwa [List.mem_singleton.1 hx]
      | true =>
        obtain ⟨now, operation⟩ := e
        cases operation with
        | setOptions k stored =>
          obtain rfl : k = key := of_decide_eq_true hsettles
          cases (if_pos rfl).symm.trans h
          exact ⟨history, [], rfl, nofun⟩
        | clear => cases h
        | getOptions | readLabels | missingIds | mergeLabels | stats => cases hsettles
  · rintro ⟨earlier, later, rfl, hlater⟩
    induction later using List.reverseRecOn with
    | nil =>
      rw [lastStored_append]
      exact if_pos rfl
    | append_singleton later e ih =>
      rw [← List.cons_append, ← List.append_assoc, lastStored_append,
        nextStored_of_not_settles (hlater e (by simp))]
      exact ih fun x hx => hlater x (by simp [hx])

theorem lastStored_filter (key : String) (history : List Event) :
    lastStored key (history.filter (Event.settles key)) = lastStored key history := by
  rw [lastStored, List.foldl_filter, lastStored]
  congr 1
  funext entry e
  split
  · rfl
  next h => exact (nextStored_of_not_settles (Bool.eq_false_iff.2 h)).symm

theorem isRecent_iff {storedAt : Rat} :
    isRecent timeToLive now storedAt = true ↔
      ∀ ttl, timeToLive = some ttl → now - storedAt ≤ ttl := by
  cases timeToLive <;> simp [isRecent]

/-- **The lifetime of cached choice lists.** After any uses of a cache, none of them later than now,
with any time to live, a read finds a choice list exactly if this was stored under the key, nothing
was stored there since, the cache was not cleared since, and the time of storing is not longer ago
than the time to live; else it finds nothing. All other uses of the cache, earlier reads of the key
among them, do not matter. -/
theorem options_lifetime (timeToLive : Option Rat) (history : List Event) (now : Rat)
    (hbefore : ∀ e ∈ history, e.time ≤ now) (key : String) :
    let found := ((ofHistory timeToLive history).getOptions now key).1
    (∀ options, found = some options ↔ ∃ earlier time later,
      history = earlier ++ ⟨time, .setOptions key options⟩ :: later ∧
        (∀ e ∈ later, e.operation ≠ .clear ∧ ∀ other, e.operation ≠ .setOptions key other) ∧
        ∀ ttl, timeToLive = some ttl → now - time ≤ ttl) ∧
    ((ofHistory timeToLive (history.filter (Event.settles key))).getOptions now key).1 = found := by
  intro found
  have hfound : found =
      ((lastStored key history).filter fun p => isRecent timeToLive now p.1).map Prod.snd :=
    getOptions_ofHistory hbefore
  refine ⟨fun options => ?_, ?_⟩
  · simp only [hfound, Option.map_eq_some_iff, Option.filter_eq_some_iff, Prod.exists,
      exists_eq_right, isRecent_iff, lastStored_eq_some, not_settles_iff]
    constructor
    · rintro ⟨time, ⟨earlier, later, heq, hlater⟩, hrecent⟩
      exact ⟨earlier, time, later, heq, hlater, hrecent⟩
    · rintro ⟨earlier, time, later, heq, hlater, hrecent⟩
      exact ⟨time, ⟨earlier, later, heq, hlater⟩, hrecent⟩
  · rw [hfound, getOptions_ofHistory fun e he => hbefore e (List.mem_of_mem_filter he),
      lastStored_filter]

/-- With a time to live of 60, a list that a read at 61 removes is stored again at 70, empty. It is
found until 130, whatever is done to labels and to another key, and not after it. -/
theorem options_lifetime_stored_again :
    let history : List Event := [
      ⟨0, .setOptions "leads.loja" [⟨"l1", "Centro"⟩]⟩,
      ⟨61, .getOptions "leads.loja"⟩,
      ⟨70, .setOptions "leads.loja" []⟩,
      ⟨71, .mergeLabels "lojas.nome" [("l1", "Centro")]⟩,
      ⟨72, .setOptions "leads.funil" [⟨"f1", "Inbound"⟩]⟩]
    let c := ofHistory (some 60) history
    (∀ e ∈ history, e.time ≤ 130) ∧ (∀ e ∈ history, e.time ≤ 131) ∧
      (c.getOptions 130 "leads.loja").1 = some [] ∧ (c.getOptions 131 "leads.loja").1 = none := by
  intro history c
  have h130 : ∀ e ∈ history, e.time ≤ 130 := by decide +kernel
  have h131 : ∀ e ∈ history, e.time ≤ 131 := by decide +kernel
  have hfound := options_lifetime (some 60) history 130 h130 "leads.loja"
  have hgone := options_lifetime (some 60) history 131 h131 "leads.loja"
  refine ⟨h130, h131, (hfound.1 []).2 ⟨history.take 2, 70, history.drop 3, rfl, ?_, ?_⟩, ?_⟩
  · simp [history]
  · rintro _ ⟨⟩
    decide +kernel
  · exact hgone.2.symm.trans (by decide +kernel)

end TableExplorer.LookupCache
