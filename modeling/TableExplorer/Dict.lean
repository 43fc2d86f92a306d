/-!
# Ordered dictionaries

A dictionary is a list of pairs in the order in which its keys were first written. Writing a
known key replaces its value in place; a new key goes to the end. Rows, JSON objects and the
caches all use it, because the order of their keys shows in the answers.

Main statements: `Dict.get?_insert_self`, `Dict.get?_insert_of_ne`, `Dict.get?_erase_self`,
`Dict.get?_erase_of_ne` and `Dict.contains_iff_mem_keys`.
-/

namespace TableExplorer

/-- Pairs of key and value, in the order in which the keys were first written. -/
abbrev Dict (α : Type u) := List (String × α)

namespace Dict

variable {α : Type u} {β : Type v}

/-! ## Operations -/

def get? : Dict α → String → Option α
  | [], _ => none
  | (k, v) :: d, key => if k = key then some v else get? d key

/-- Write `value` under `key`: in place where the key is known, else at the end. -/
def insert : Dict α → String → α → Dict α
  | [], key, value => [(key, value)]
  | (k, v) :: d, key, value =>
    if k = key then (k, value) :: d else (k, v) :: insert d key value

def erase : Dict α → String → Dict α
  | [], _ => []
  | (k, v) :: d, key => if k = key then erase d key else (k, v) :: erase d key

def keys (d : Dict α) : List String := d.map Prod.fst

def contains (d : Dict α) (key : String) : Bool := (get? d key).isSome

/-- Write every pair of `e` into `d`, in order. -/
def merge (d e : Dict α) : Dict α := e.foldl (fun d p => insert d p.1 p.2) d

/-- The dictionary that a list of pairs gives when written in order: a repeated key keeps its
first place and its last value. -/
def ofList (pairs : List (String × α)) : Dict α := merge [] pairs

def mapValues (f : α → β) (d : Dict α) : Dict β := d.map fun p => (p.1, f p.2)

/-! ## Reading after writing -/

@[simp] theorem get?_nil (key : String) : get? ([] : Dict α) key = none := rfl

theorem get?_cons (k : String) (v : α) (d : Dict α) (key : String) :
    get? ((k, v) :: d) key = if k = key then some v else get? d key := rfl

@[simp] theorem get?_insert_self (d : Dict α) (key : String) (value : α) :
    get? (insert d key value) key = some value := by
  induction d with
  | nil => simp [insert, get?]
  | cons p d ih =>
    obtain ⟨k, v⟩ := p
    by_cases h : k = key <;> simp [insert, get?, h, ih]

theorem get?_insert_of_ne (d : Dict α) {key other : String} (value : α) (hne : other ≠ key) :
    get? (insert d key value) other = get? d other := by
  induction d with
  | nil => simp [insert, get?, Ne.symm hne]
  | cons p d ih =>
    obtain ⟨k, v⟩ := p
    by_cases h : k = key
    · subst h; simp [insert, get?, Ne.symm hne]
    · by_cases ho : k = other
      · subst ho; simp [insert, get?, h]
      · simp [insert, get?, h, ho, ih]

@[simp] theorem get?_erase_self (d : Dict α) (key : String) : get? (erase d key) key = none := by
  induction d with
  | nil => rfl
  | cons p d ih =>
    obtain ⟨k, v⟩ := p
    by_cases h : k = key <;> simp [erase, get?, h, ih]

theorem get?_erase_of_ne (d : Dict α) {key other : String} (hne : other ≠ key) :
    get? (erase d key) other = get? d other := by
  induction d with
  | nil => rfl
  | cons p d ih =>
    obtain ⟨k, v⟩ := p
    by_cases h : k = key
    · subst h; simp [erase, get?, Ne.symm hne, ih]
    · by_cases ho : k = other
      · subst ho; simp [erase, get?, h]
      · simp [erase, get?, h, ho, ih]

theorem contains_iff_mem_keys (d : Dict α) (key : String) :
    contains d key = true ↔ key ∈ keys d := by
  induction d with
  | nil => simp [contains, keys]
  | cons p d ih =>
    obtain ⟨k, v⟩ := p
    by_cases h : k = key
    · simp [contains, keys, get?, h]
    · have : key ≠ k := Ne.symm h
      simpa [contains, keys, get?, h, this] using ih

end Dict

end TableExplorer
