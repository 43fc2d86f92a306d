import TableExplorer.Text.Characters

/-!
# Splitting at a character

`splitAtChar` cuts a text at every occurrence of a separator and keeps empty parts, so that it has
one more part than the text has separators. `joinWith` puts the parts back together.

Main statements: `length_splitAtChar`, `not_mem_of_mem_splitAtChar` and `splitAtChar_joinWith`.
-/

namespace TableExplorer.Text

/-- The parts of a text between the occurrences of a separator. -/
def splitAtChar (sep : Char) : List Char → List (List Char)
  | [] => [[]]
  | c :: cs =>
    if c = sep then [] :: splitAtChar sep cs
    else match splitAtChar sep cs with
      | [] => [[c]]
      | part :: parts => (c :: part) :: parts

/-- Parts joined by a separator. -/
def joinWith (sep : Char) : List (List Char) → List Char
  | [] => []
  | [part] => part
  | part :: parts => part ++ sep :: joinWith sep parts

theorem splitAtChar_ne_nil (sep : Char) (cs : List Char) : splitAtChar sep cs ≠ [] := by
  cases cs with
  | nil => simp [splitAtChar]
  | cons c cs =>
    simp only [splitAtChar]
    split
    · simp
    · split <;> simp

theorem length_splitAtChar (sep : Char) (cs : List Char) :
    (splitAtChar sep cs).length = cs.count sep + 1 := by
  induction cs with
  | nil => rfl
  | cons c cs ih =>
    by_cases h : c = sep
    · simp [splitAtChar, h, ih]
    · have hne := splitAtChar_ne_nil sep cs
      simp only [splitAtChar, h, if_false]
      split
      · next heq => exact absurd heq hne
      · next part parts heq =>
        rw [heq] at ih
        simpa [h, List.count_cons] using ih

theorem not_mem_of_mem_splitAtChar {sep : Char} {cs part : List Char}
    (h : part ∈ splitAtChar sep cs) : sep ∉ part := by
  induction cs generalizing part with
  | nil => simp_all [splitAtChar]
  | cons c cs ih =>
    by_cases hc : c = sep
    · simp only [splitAtChar, hc, if_true, List.mem_cons] at h
      rcases h with rfl | h
      · simp
      · exact ih h
    · simp only [splitAtChar, hc, if_false] at h
      split at h
      · simp only [List.mem_singleton] at h
        subst h
        simpa using Ne.symm hc
      · next first parts heq =>
        rcases List.mem_cons.1 h with rfl | h
        · have : sep ∉ first := ih (by rw [heq]; simp)
          simpa using ⟨Ne.symm hc, this⟩
        · exact ih (by rw [heq]; simp [h])

theorem splitAtChar_of_not_mem {sep : Char} {cs : List Char} (h : sep ∉ cs) :
    splitAtChar sep cs = [cs] := by
  induction cs with
  | nil => rfl
  | cons c cs ih =>
    rw [List.mem_cons, not_or] at h
    rw [splitAtChar, if_neg (Ne.symm h.1), ih h.2]

theorem splitAtChar_append_cons {sep : Char} {part : List Char} (h : sep ∉ part)
    (cs : List Char) : splitAtChar sep (part ++ sep :: cs) = part :: splitAtChar sep cs := by
  induction part with
  | nil => rw [List.nil_append, splitAtChar, if_pos rfl]
  | cons c part ih =>
    rw [List.mem_cons, not_or] at h
    rw [List.cons_append, splitAtChar, if_neg (Ne.symm h.1), ih h.2]

theorem splitAtChar_joinWith {sep : Char} {parts : List (List Char)} (hne : parts ≠ [])
    (h : ∀ part ∈ parts, sep ∉ part) : splitAtChar sep (joinWith sep parts) = parts := by
  induction parts with
  | nil => exact absurd rfl hne
  | cons part parts ih =>
    have hpart : sep ∉ part := h part List.mem_cons_self
    cases parts with
    | nil => exact splitAtChar_of_not_mem hpart
    | cons next parts =>
      rw [joinWith, splitAtChar_append_cons hpart,
        ih (List.cons_ne_nil next parts) fun p hp => h p (List.mem_cons_of_mem part hp)]
      exact List.cons_ne_nil next parts

/-- The members of a comma-separated list, each without blanks at its ends. Empty members are
kept. -/
def splitList (s : String) : List String :=
  (splitAtChar ',' s.toList).map fun part => String.ofList (trimBoth isBlank part)

end TableExplorer.Text
