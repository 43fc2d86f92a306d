import TableExplorer.Dict

/-!
# Laws of dictionaries

A dictionary is read by its first pair with a key. Reading after one dictionary was written into
another is the question which pair was written last, and for a dictionary made from a list of pairs
this is the last pair of the list; hence the reversed lists below. No operation makes a key occur
twice.

Main results: `Dict.get?_merge`, `Dict.get?_ofList` and `Dict.nodup_keys_ofList`.
-/

namespace TableExplorer.Dict

variable {α : Type u} {β : Type v}

/-! ## Keys -/

@[simp] theorem keys_nil : keys ([] : Dict α) = [] := rfl

@[simp] theorem keys_cons (p : String × α) (d : Dict α) : keys (p :: d) = p.1 :: keys d := rfl

theorem get?_eq_none_iff (d : Dict α) (key : String) : get? d key = none ↔ key ∉ keys d := by
  rw [← contains_iff_mem_keys, contains]
  cases get? d key <;> simp

theorem mem_keys_of_mem {d : Dict α} {key : String} {value : α} (h : (key, value) ∈ d) :
    key ∈ keys d := List.mem_map_of_mem (f := Prod.fst) h

theorem mem_of_get? {d : Dict α} {key : String} {value : α} (h : get? d key = some value) :
    (key, value) ∈ d := by
  induction d with
  | nil => cases h
  | cons p d ih =>
    obtain ⟨k, v⟩ := p
    rw [get?_cons] at h
    by_cases hk : k = key
    · rw [if_pos hk] at h
      cases h
      exact hk ▸ List.mem_cons_self
    · rw [if_neg hk] at h
      exact List.mem_cons_of_mem _ (ih h)

theorem get?_of_mem {d : Dict α} (hd : (keys d).Nodup) {key : String} {value : α}
    (h : (key, value) ∈ d) : get? d key = some value := by
  induction d with
  | nil => cases h
  | cons p d ih =>
    obtain ⟨k, v⟩ := p
    rw [keys_cons, List.nodup_cons] at hd
    rw [get?_cons]
    rcases List.mem_cons.1 h with heq | hmem
    · cases heq
      exact if_pos rfl
    · have hne : k ≠ key := by
        rintro rfl
        exact hd.1 (mem_keys_of_mem hmem)
      rw [if_neg hne]
      exact ih hd.2 hmem

/-- Writing keeps the keys in their order and puts a new one at the end. -/
theorem keys_insert (d : Dict α) (key : String) (value : α) :
    keys (insert d key value) = if key ∈ keys d then keys d else keys d ++ [key] := by
  induction d with
  | nil => rfl
  | cons p d ih =>
    obtain ⟨k, v⟩ := p
    by_cases h : k = key
    · simp [insert, h]
    · rw [insert, if_neg h, keys_cons, ih]
      by_cases hmem : key ∈ keys d <;> simp [hmem, Ne.symm h]

theorem keys_erase (d : Dict α) (key : String) :
    keys (erase d key) = (keys d).filter fun k => k ≠ key := by
  induction d with
  | nil => rfl
  | cons p d ih =>
    obtain ⟨k, v⟩ := p
    by_cases h : k = key <;> simp [erase, h, ih]

theorem erase_of_get?_eq_none {d : Dict α} {key : String} (h : get? d key = none) :
    erase d key = d := by
  induction d with
  | nil => rfl
  | cons p d ih =>
    obtain ⟨k, v⟩ := p
    rw [get?_cons] at h
    by_cases hk : k = key
    · rw [if_pos hk] at h
      cases h
    · rw [if_neg hk] at h
      rw [erase, if_neg hk, ih h]

theorem mem_keys_merge {d e : Dict α} {key : String} :
    key ∈ keys (merge d e) ↔ key ∈ keys d ∨ key ∈ keys e := by
  induction e generalizing d with
  | nil => simp [merge]
  | cons p e ih =>
    have hinsert : key ∈ keys (insert d p.1 p.2) ↔ key ∈ keys d ∨ key = p.1 := by
      rw [keys_insert]
      by_cases hmem : p.1 ∈ keys d
      · rw [if_pos hmem]
        exact ⟨.inl, fun h => h.elim id fun heq => heq ▸ hmem⟩
      · rw [if_neg hmem, List.mem_append, List.mem_singleton]
    show key ∈ keys (merge (insert d p.1 p.2) e) ↔ _
    rw [ih, hinsert, keys_cons, List.mem_cons, or_assoc]

/-- Writing a dictionary into another puts the new keys behind the old ones, in the order in which
they first occur. -/
theorem keys_merge (d e : Dict α) :
    keys (merge d e) = keys d ++ ((keys e).removeAll (keys d)).eraseDups := by
  induction e generalizing d with
  | nil => simp [merge, List.removeAll]
  | cons p e ih =>
    show keys (merge (insert d p.1 p.2) e) = _
    rw [ih, keys_insert, keys_cons]
    by_cases hmem : p.1 ∈ keys d
    · simp [hmem, List.removeAll]
    · have hrest : (keys e).removeAll (keys d ++ [p.1]) =
          ((keys e).removeAll (keys d)).filter fun k => !k == p.1 := by
        simp only [List.removeAll, List.filter_filter]
        congr 1
        funext k
        by_cases hk : k = p.1 <;> simp [hk]
      rw [if_neg hmem, hrest, List.append_assoc]
      simp [List.removeAll, List.eraseDups_cons, hmem]

/-- The keys of a dictionary made from pairs, in the order in which they first occur. -/
theorem keys_ofList (pairs : List (String × α)) :
    keys (ofList pairs) = (keys pairs).eraseDups := by
  rw [ofList, keys_merge, keys_nil, List.removeAll_nil, List.nil_append]

theorem nodup_keys_insert {d : Dict α} (h : (keys d).Nodup) (key : String) (value : α) :
    (keys (insert d key value)).Nodup := by
  rw [keys_insert]
  by_cases hmem : key ∈ keys d
  · rwa [if_pos hmem]
  · rw [if_neg hmem, List.nodup_append]
    exact ⟨h, by simp, fun a ha b hb heq => hmem (by simpa [heq, List.mem_singleton.1 hb] using ha)⟩

theorem nodup_keys_merge {d : Dict α} (h : (keys d).Nodup) (e : Dict α) :
    (keys (merge d e)).Nodup := by
  induction e generalizing d with
  | nil => exact h
  | cons p e ih => exact ih (nodup_keys_insert h p.1 p.2)

theorem nodup_keys_ofList (pairs : List (String × α)) : (keys (ofList pairs)).Nodup :=
  nodup_keys_merge (d := []) List.nodup_nil pairs

/-! ## Reading -/

theorem get?_append (d e : Dict α) (key : String) :
    get? (d ++ e) key = (get? d key).or (get? e key) := by
  induction d with
  | nil => rfl
  | cons p d ih =>
    obtain ⟨k, v⟩ := p
    rw [List.cons_append, get?_cons, get?_cons, ih]
    by_cases h : k = key <;> simp [h]

theorem get?_insert (d : Dict α) (key other : String) (value : α) :
    get? (insert d key value) other = if other = key then some value else get? d other := by
  by_cases h : other = key
  · rw [h, get?_insert_self, if_pos rfl]
  · rw [get?_insert_of_ne d value h, if_neg h]

theorem get?_erase (d : Dict α) (key other : String) :
    get? (erase d key) other = if other = key then none else get? d other := by
  by_cases h : other = key
  · rw [h, get?_erase_self, if_pos rfl]
  · rw [get?_erase_of_ne d h, if_neg h]

/-- After `e` was written into `d`, the last pair of `e` with a key is read under it. -/
theorem get?_merge_reverse (d e : Dict α) (key : String) :
    get? (merge d e) key = (get? e.reverse key).or (get? d key) := by
  induction e generalizing d with
  | nil => rfl
  | cons p e ih =>
    obtain ⟨k, v⟩ := p
    show get? (merge (insert d k v) e) key = _
    rw [ih, get?_insert, List.reverse_cons, get?_append, Option.or_assoc]
    congr 1
    by_cases h : key = k <;> simp [get?_cons, h, Ne.symm]

theorem get?_reverse {d : Dict α} (h : (keys d).Nodup) (key : String) :
    get? d.reverse key = get? d key := by
  have hrev : (keys d.reverse).Nodup := by
    rw [keys, List.map_reverse]
    exact (List.reverse_perm _).nodup_iff.2 h
  cases hget : get? d key with
  | none =>
    rw [get?_eq_none_iff] at hget ⊢
    rwa [keys, List.map_reverse, List.mem_reverse]
  | some value => exact get?_of_mem hrev (List.mem_reverse.2 (mem_of_get? hget))

/-- **Reading after writing a dictionary into another.** What is written wins. -/
theorem get?_merge (d : Dict α) {e : Dict α} (h : (keys e).Nodup) (key : String) :
    get? (merge d e) key = (get? e key).or (get? d key) := by
  rw [get?_merge_reverse, get?_reverse h]

/-- A dictionary made from pairs holds under a key what its last pair says. -/
theorem get?_ofList (pairs : List (String × α)) (key : String) :
    get? (ofList pairs) key = get? (List.reverse pairs) key := by
  rw [ofList, get?_merge_reverse, get?_nil, Option.or_none]

theorem insert_of_not_mem {d : Dict α} {key : String} (h : key ∉ keys d) (value : α) :
    insert d key value = d ++ [(key, value)] := by
  induction d with
  | nil => rfl
  | cons p d ih =>
    rw [keys_cons, List.mem_cons, not_or] at h
    rw [insert, if_neg (Ne.symm h.1), ih h.2, List.cons_append]

theorem merge_of_nodup {d e : Dict α} (h : (keys (d ++ e)).Nodup) : merge d e = d ++ e := by
  induction e generalizing d with
  | nil => exact (List.append_nil d).symm
  | cons p e ih =>
    have hnew : p.1 ∉ keys d := by
      intro hmem
      rw [keys, List.map_append, List.nodup_append] at h
      exact h.2.2 p.1 hmem p.1 List.mem_cons_self rfl
    show merge (insert d p.1 p.2) e = _
    rw [insert_of_not_mem hnew, ih (by rwa [List.append_assoc]), List.append_assoc]
    rfl

/-- Writing a dictionary without repeated keys into another puts its new keys at the end. -/
theorem keys_merge_of_nodup (d : Dict α) {e : Dict α} (h : (keys e).Nodup) :
    keys (merge d e) = keys d ++ (keys e).filter fun key => key ∉ keys d := by
  induction e generalizing d with
  | nil => simp [merge]
  | cons p e ih =>
    rw [keys_cons, List.nodup_cons] at h
    show keys (merge (insert d p.1 p.2) e) = _
    rw [ih _ h.2, keys_insert, keys_cons]
    by_cases hmem : p.1 ∈ keys d
    · simp [hmem]
    · have hrest : ((keys e).filter fun key => key ∉ keys d ++ [p.1]) =
          (keys e).filter fun key => key ∉ keys d := by
        refine List.filter_congr fun key hkey => ?_
        have hne : key ≠ p.1 := by
          rintro rfl
          exact h.1 hkey
        simp [hne]
      rw [if_neg hmem, hrest, List.filter_cons_of_pos (by simpa using hmem), List.append_assoc,
        List.singleton_append]

theorem ofList_of_nodup {pairs : List (String × α)} (h : (keys pairs).Nodup) :
    ofList pairs = pairs := merge_of_nodup h

theorem get?_eq_find? (d : Dict α) (key : String) :
    get? d key = (d.find? fun p => p.1 = key).map Prod.snd := by
  induction d with
  | nil => rfl
  | cons p d ih =>
    obtain ⟨k, v⟩ := p
    rw [get?_cons, List.find?_cons, ih]
    by_cases h : k = key <;> simp [h]

theorem get?_map_prod (f : String → α) (names : List String) (key : String) :
    get? (names.map fun name => (name, f name)) key =
      if key ∈ names then some (f key) else none := by
  induction names with
  | nil => rfl
  | cons name names ih =>
    by_cases h : name = key
    · simp [get?_cons, h]
    · simp [get?_cons, h, ih, Ne.symm h]

theorem get?_mapValues (f : α → β) (d : Dict α) (key : String) :
    get? (mapValues f d) key = (get? d key).map f := by
  induction d with
  | nil => rfl
  | cons p d ih =>
    obtain ⟨k, v⟩ := p
    show get? ((k, f v) :: mapValues f d) key = _
    rw [get?_cons, get?_cons, ih]
    by_cases h : k = key <;> simp [h]

end TableExplorer.Dict
