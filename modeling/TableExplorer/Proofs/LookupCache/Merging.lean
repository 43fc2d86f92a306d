import TableExplorer.Proofs.LookupCache.Lifetime

/-!
# Reading labels just merged

Labels that were merged under a key count from the first merge since the key was last emptied. So
what was just merged is there to be read, unless the labels before it have run out and no read has
noticed yet: then the merge goes to labels that are removed, all together, by the next read. A
resolve is open to this between asking which labels are missing and merging the answer.

Main result: `merged_labels_read`.
-/

namespace TableExplorer.LookupCache

variable {timeToLive : Option Rat}

namespace Merges

/-- There are merges under a key, and the first is too long ago for any of them to be read. -/
def RanOut (timeToLive : Option Rat) (now : Rat) (m : Merges) : Prop :=
  ∃ first rest ttl, m = first :: rest ∧ timeToLive = some ttl ∧ ttl < now - first.1

theorem ranOut_iff {now : Rat} {m : Merges} :
    m.RanOut timeToLive now ↔ m ≠ [] ∧ m.isLive timeToLive now = false := by
  cases m with
  | nil => simp [RanOut]
  | cons first rest =>
    cases timeToLive with
    | none => simp [RanOut, isLive, isRecent]
    | some ttl =>
      calc RanOut (some ttl) now (first :: rest)
        _ ↔ ttl < now - first.1 :=
          ⟨fun ⟨_, _, _, hm, httl, h⟩ => by cases hm; cases httl; exact h,
            fun h => ⟨first, rest, ttl, rfl, rfl, h⟩⟩
        _ ↔ isLive (some ttl) now (first :: rest) = false :=
          Rat.not_le.symm.trans decide_eq_false_iff_not.symm
        _ ↔ _ := (and_iff_right (List.cons_ne_nil first rest)).symm

/-- What is merged now is recent, so it is live if it is the first, and else if the first is. -/
theorem isLive_append (hlasting : ∀ ttl, timeToLive = some ttl → 0 ≤ ttl) (now : Rat) (m : Merges)
    (labels : Labels) :
    isLive timeToLive now (m ++ [(now, labels)]) = true ↔ ¬ m.RanOut timeToLive now := by
  cases m with
  | nil =>
    have hnow : isRecent timeToLive now now = true := by
      cases timeToLive with
      | none => rfl
      | some ttl => simpa [isRecent, Rat.sub_self] using hlasting ttl rfl
    exact iff_of_true hnow fun h => (ranOut_iff.1 h).1 rfl
  | cons first rest =>
    rw [ranOut_iff]
    show isRecent timeToLive now first.1 = true ↔ ¬ (_ ∧ isRecent timeToLive now first.1 = false)
    simp

theorem not_ranOut_of_read {history : List Event} {key : String} {now : Rat} {operation : Operation}
    (h : operation = .readLabels key ∨ ∃ ids, operation = .missingIds key ids) :
    ¬ (ofHistory timeToLive key (history ++ [⟨now, operation⟩])).RanOut timeToLive now := by
  have hnext : ofHistory timeToLive key (history ++ [⟨now, operation⟩]) =
      if (ofHistory timeToLive key history).isLive timeToLive now = false then []
      else ofHistory timeToLive key history := by
    rw [ofHistory_append]
    rcases h with rfl | ⟨ids, rfl⟩ <;> simp [next]
  rw [hnext, ranOut_iff]
  split
  · exact fun h => h.1 rfl
  next hlive => exact fun h => hlive h.2

end Merges

/-- **Reading labels just merged.** After any uses of a cache, with any time to live that is not
negative, a read at the time of a merge knows the labels merged under the key, the new ones first;
but it knows nothing if the labels before have run out without a read. So the new labels are read,
and none of their identifiers is missing, exactly if there are none or nothing has run out. Nothing
has if the last use of the cache was a read of the key at this time. -/
theorem merged_labels_read (timeToLive : Option Rat)
    (hlasting : ∀ ttl, timeToLive = some ttl → 0 ≤ ttl) (history : List Event) (now : Rat)
    (key : String) (labels : Labels) (hlabels : (Dict.keys labels).Nodup) :
    let merges := Merges.ofHistory timeToLive key history
    let merged := (ofHistory timeToLive history).mergeLabels now key labels
    let known := (merged.readLabels now key).1
    (¬ merges.RanOut timeToLive now → known = Dict.merge merges.union labels) ∧
    (merges.RanOut timeToLive now →
      known = [] ∧ ∀ ids, (merged.missingIds now key ids).1 = ids) ∧
    ((∀ id label, Dict.get? labels id = some label → Dict.get? known id = some label) ∧
        (∀ ids, ∀ id ∈ (merged.missingIds now key ids).1, id ∉ Dict.keys labels) ↔
      labels = [] ∨ ¬ merges.RanOut timeToLive now) ∧
    ∀ earlier operation, history = earlier ++ [⟨now, operation⟩] →
      (operation = .readLabels key ∨ ∃ ids, operation = .missingIds key ids) →
      ¬ merges.RanOut timeToLive now := by
  intro merges merged known
  have hagrees := (agrees_ofHistory timeToLive history).mergeLabels now key labels
  have hknown : known =
      if Merges.isLive timeToLive now (merges ++ [(now, labels)]) then
        Dict.merge merges.union labels
      else [] := by
    rw [← Merges.union_append]
    simpa using hagrees.readLabels_eq now key
  have hmissing : ∀ ids, (merged.missingIds now key ids).1 =
      ids.filter fun id => id ∉ Dict.keys known := missingIds_eq merged now key
  have hlive := Merges.isLive_append hlasting now merges labels
  have hkept : ¬ merges.RanOut timeToLive now → known = Dict.merge merges.union labels :=
    fun h => by rw [hknown, if_pos (hlive.2 h)]
  have hlost : merges.RanOut timeToLive now →
      known = [] ∧ ∀ ids, (merged.missingIds now key ids).1 = ids := by
    intro h
    have hnone : known = [] := by rw [hknown, if_neg fun htrue => hlive.1 htrue h]
    exact ⟨hnone, fun ids => by simp [hmissing, hnone]⟩
  refine ⟨hkept, hlost, ⟨fun h => ?_, fun h => ⟨fun id label hid => ?_, fun ids id hid => ?_⟩⟩, ?_⟩
  · by_contra hboth
    obtain ⟨hsome, hranOut⟩ := not_or.1 hboth
    obtain ⟨p, hp⟩ := List.exists_mem_of_ne_nil labels hsome
    have hmem : p.1 ∈ Dict.keys labels := Dict.mem_keys_of_mem hp
    refine h.2 [p.1] p.1 ?_ hmem
    rw [(hlost (not_not.1 hranOut)).2]
    exact List.mem_singleton_self p.1
  · rcases h with rfl | h
    · cases hid
    · rw [hkept h, Dict.get?_merge _ hlabels, hid, Option.some_or]
  · rcases h with rfl | h
    · exact List.not_mem_nil
    · rw [hmissing, List.mem_filter, decide_eq_true_eq, hkept h, Dict.mem_keys_merge] at hid
      exact fun hmem => hid.2 (.inr hmem)
  · rintro earlier operation rfl hread
    exact Merges.not_ranOut_of_read hread

/-- With a time to live of 60, the label of a seller ran out at 60. It is merged again at 61:
without a read before, the new label is lost with the old one; with one, it is there. -/
theorem merged_labels_read_seller :
    let history : List Event := [⟨0, .mergeLabels "vendedores.nome" [("v1", "Ana")]⟩]
    let labels : Labels := [("v1", "Anna")]
    let unread := (ofHistory (some 60) history).mergeLabels 61 "vendedores.nome" labels
    let noticed := (ofHistory (some 60) (history ++
      [⟨61, .missingIds "vendedores.nome" ["v1"]⟩])).mergeLabels 61 "vendedores.nome" labels
    (∀ ttl, some (60 : Rat) = some ttl → 0 ≤ ttl) ∧ (Dict.keys labels).Nodup ∧
      (unread.readLabels 61 "vendedores.nome").1 = [] ∧
      (unread.missingIds 61 "vendedores.nome" ["v1"]).1 = ["v1"] ∧
      (noticed.readLabels 61 "vendedores.nome").1 = [("v1", "Anna")] := by
  intro history labels unread noticed
  have hlasting : ∀ ttl, some (60 : Rat) = some ttl → 0 ≤ ttl := by
    rintro _ ⟨⟩
    decide
  have hlabels : (Dict.keys labels).Nodup := by decide
  have hunread := merged_labels_read (some 60) hlasting history 61 "vendedores.nome" labels hlabels
  have hnoticed := merged_labels_read (some 60) hlasting
    (history ++ [⟨61, .missingIds "vendedores.nome" ["v1"]⟩]) 61 "vendedores.nome" labels hlabels
  have hranOut : (Merges.ofHistory (some 60) "vendedores.nome" history).RanOut (some 60) 61 :=
    ⟨(0, [("v1", "Ana")]), [], 60, rfl, rfl, by decide +kernel⟩
  have hlost := hunread.2.1 hranOut
  refine ⟨hlasting, hlabels, hlost.1, hlost.2 ["v1"], ?_⟩
  exact (hnoticed.1 (hnoticed.2.2.2 history _ rfl (.inr ⟨_, rfl⟩))).trans (by decide +kernel)

end TableExplorer.LookupCache
