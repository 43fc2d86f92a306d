import Mathlib.Data.List.DropRight
import TableExplorer.Request.Compile

/-!
# In-lists

The text of an in-list is cut at its commas and every member is trimmed. Trimming drops exactly the
blanks that were put around a member (`strip_written`) and nothing from one that has none at its
ends (`strip_of_trimmed`), and cutting undoes joining, so members are read back from their text
however they are spaced.

Main result: `members_read_back`.
-/

namespace TableExplorer.Text

/-! ## Trimming -/

section Trimming

variable {isDropped : Char → Bool} {cs : List Char}

theorem dropWhile_of_head (h : ∀ c ∈ cs.head?, isDropped c = false) :
    cs.dropWhile isDropped = cs := by
  cases cs with
  | nil => rfl
  | cons c cs => rw [List.dropWhile_cons_of_neg (by simp [h c rfl])]

theorem head_dropWhile (isDropped : Char → Bool) (cs : List Char) :
    ∀ c ∈ (cs.dropWhile isDropped).head?, isDropped c = false := by
  intro c hc
  have hhead := List.head?_dropWhile_not isDropped cs
  rwa [hc] at hhead

theorem ends_trimBoth (isDropped : Char → Bool) (cs : List Char) :
    (∀ c ∈ (trimBoth isDropped cs).head?, isDropped c = false) ∧
      ∀ c ∈ (trimBoth isDropped cs).getLast?, isDropped c = false := by
  constructor
  · intro c hc
    -- Dropping from the end leaves a front of the text, so its head is the one behind the blanks.
    have hfront : trimBoth isDropped cs <+: cs.dropWhile isDropped :=
      List.rdropWhile_prefix isDropped (cs.dropWhile isDropped)
    obtain ⟨dropped, happend⟩ := hfront
    refine head_dropWhile isDropped cs c ?_
    rw [← happend, List.head?_append, hc]
    rfl
  · intro c hc
    rw [trimBoth, List.getLast?_reverse] at hc
    exact head_dropWhile isDropped _ c hc

theorem trimBoth_sublist (isDropped : Char → Bool) (cs : List Char) :
    (trimBoth isDropped cs).Sublist cs :=
  (List.rdropWhile_prefix isDropped _).sublist.trans (List.dropWhile_sublist isDropped)

theorem trimBoth_of_ends (hhead : ∀ c ∈ cs.head?, isDropped c = false)
    (hlast : ∀ c ∈ cs.getLast?, isDropped c = false) : trimBoth isDropped cs = cs := by
  have hreverse : ∀ c ∈ cs.reverse.head?, isDropped c = false := by
    rwa [List.head?_reverse]
  rw [trimBoth, dropWhile_of_head hhead, dropWhile_of_head hreverse, List.reverse_reverse]

theorem trimBoth_surrounded {front back : List Char} (hfront : ∀ c ∈ front, isDropped c = true)
    (hback : ∀ c ∈ back, isDropped c = true) :
    trimBoth isDropped (front ++ (cs ++ back)) = trimBoth isDropped cs := by
  have hbackReverse : ∀ c ∈ back.reverse, isDropped c = true :=
    fun c hc => hback c (List.mem_reverse.1 hc)
  unfold trimBoth
  rw [List.dropWhile_append_of_pos hfront, List.dropWhile_append]
  split
  next hnone =>
    rw [List.isEmpty_iff] at hnone
    rw [hnone, List.dropWhile_eq_nil_iff.2 hback]
  next => rw [List.reverse_append, List.dropWhile_append_of_pos hbackReverse]

end Trimming

/-- A text that neither begins nor ends with a blank. -/
structure Trimmed (s : String) : Prop where
  head : ∀ c ∈ s.toList.head?, isBlank c = false
  last : ∀ c ∈ s.toList.getLast?, isBlank c = false

theorem trimmed_strip (s : String) : Trimmed (strip s) := by
  obtain ⟨hhead, hlast⟩ := ends_trimBoth isBlank s.toList
  constructor
  · rwa [strip, String.toList_ofList]
  · rwa [strip, String.toList_ofList]

theorem strip_of_trimmed {s : String} (h : Trimmed s) : strip s = s := by
  rw [strip, trimBoth_of_ends h.head h.last, String.ofList_toList]

theorem mem_of_mem_strip {s : String} {c : Char} (h : c ∈ (strip s).toList) : c ∈ s.toList := by
  rw [strip, String.toList_ofList] at h
  exact (trimBoth_sublist isBlank s.toList).subset h

/-! ## Splitting and joining -/

theorem joinWith_eq_intercalate (sep : Char) (parts : List (List Char)) :
    joinWith sep parts = [sep].intercalate parts := by
  induction parts with
  | nil => rfl
  | cons part parts ih =>
    cases parts with
    | nil => simp [joinWith]
    | cons next parts => simp [joinWith, ih]

theorem splitList_eq (s : String) :
    splitList s = (splitAtChar ',' s.toList).map fun part => strip (String.ofList part) := by
  simp only [splitList, strip, String.toList_ofList]

theorem comma_not_mem_of_mem_splitList {s m : String} (h : m ∈ splitList s) : ',' ∉ m.toList := by
  rw [splitList_eq] at h
  obtain ⟨part, hpart, rfl⟩ := List.mem_map.1 h
  intro hcomma
  have hmem := mem_of_mem_strip hcomma
  rw [String.toList_ofList] at hmem
  exact not_mem_of_mem_splitAtChar hpart hmem

theorem trimmed_of_mem_splitList {s m : String} (h : m ∈ splitList s) : Trimmed m := by
  rw [splitList_eq] at h
  obtain ⟨part, -, rfl⟩ := List.mem_map.1 h
  exact trimmed_strip _

theorem length_splitList (s : String) : (splitList s).length = s.toList.count ',' + 1 := by
  rw [splitList, List.length_map, length_splitAtChar]

theorem splitList_ne_nil (s : String) : splitList s ≠ [] := by
  intro hnil
  have hlength := length_splitList s
  rw [hnil] at hlength
  cases hlength

/-- Texts without commas, joined by commas, are found again, each without the blanks at its
ends. -/
theorem splitList_intercalate {parts : List String} (hne : parts ≠ [])
    (hparts : ∀ part ∈ parts, ',' ∉ part.toList) :
    splitList (",".intercalate parts) = parts.map strip := by
  have hchars : (",".intercalate parts).toList = joinWith ',' (parts.map String.toList) := by
    rw [String.toList_intercalate, joinWith_eq_intercalate]
    rfl
  rw [splitList_eq, hchars, splitAtChar_joinWith (by simpa using hne) (by simpa using hparts),
    List.map_map]
  refine List.map_congr_left fun part _ => ?_
  rw [Function.comp_apply, String.ofList_toList]

/-! ## Members as they are written -/

structure Member where
  before : String := ""
  text : String
  after : String := ""
  blank_before : ∀ c ∈ before.toList, isBlank c = true := by decide
  blank_after : ∀ c ∈ after.toList, isBlank c = true := by decide
  no_comma : ',' ∉ text.toList := by decide
  trimmed : Trimmed text

namespace Member

def written (m : Member) : String := m.before ++ m.text ++ m.after

theorem toList_written (m : Member) :
    m.written.toList = m.before.toList ++ (m.text.toList ++ m.after.toList) := by
  simp [written]

theorem comma_not_mem_written (m : Member) : ',' ∉ m.written.toList := by
  have hblank : isBlank ',' = false := by decide
  rw [toList_written, List.mem_append, List.mem_append, not_or, not_or]
  refine ⟨fun hmem => ?_, m.no_comma, fun hmem => ?_⟩
  · rw [m.blank_before _ hmem] at hblank
    cases hblank
  · rw [m.blank_after _ hmem] at hblank
    cases hblank

/-- Trimming drops the blanks around a member, and nothing of the member. -/
theorem strip_written (m : Member) : strip m.written = m.text := by
  rw [strip, toList_written, trimBoth_surrounded m.blank_before m.blank_after,
    trimBoth_of_ends m.trimmed.head m.trimmed.last, String.ofList_toList]

end Member

/-! ## Reading back -/

/-- **The members of an in-list are read back from its text**, whatever blanks stand around them.
Every text is an in-list: it has one member more than commas, its members hold no comma and no
blank at either end, and joined again they give the same members. So the predicate of an in-filter
has at least one member. -/
theorem members_read_back :
    (∀ members : List Member, members ≠ [] →
      splitList (",".intercalate (members.map Member.written)) = members.map Member.text) ∧
    ∀ v : String,
      (splitList v).length = v.toList.count ',' + 1 ∧
      (∀ m ∈ splitList v, ',' ∉ m.toList ∧ Trimmed m) ∧
      splitList (",".intercalate (splitList v)) = splitList v ∧
      ∀ f : Filter, f.operator = some .oneOf → f.column ≠ "" → f.value = v →
        ∃ first rest, splitList v = first :: rest ∧
          f.predicate? =
            some { column := f.column, test := .oneOf ((first :: rest).map .text) } := by
  refine ⟨fun members hne => ?_, fun v => ⟨length_splitList v, fun m hm => ?_, ?_, ?_⟩⟩
  · have hwritten : ∀ part ∈ members.map Member.written, ',' ∉ part.toList := by
      rw [List.forall_mem_map]
      exact fun m _ => m.comma_not_mem_written
    rw [splitList_intercalate (by simpa using hne) hwritten, List.map_map]
    exact List.map_congr_left fun m _ => m.strip_written
  · exact ⟨comma_not_mem_of_mem_splitList hm, trimmed_of_mem_splitList hm⟩
  · rw [splitList_intercalate (splitList_ne_nil v) fun _ => comma_not_mem_of_mem_splitList]
    conv => rhs; rw [← List.map_id (splitList v)]
    exact List.map_congr_left fun m hm => strip_of_trimmed (trimmed_of_mem_splitList hm)
  · intro f hoperator hcolumn hvalue
    obtain ⟨first, rest, hsplit⟩ := List.exists_cons_of_ne_nil (splitList_ne_nil v)
    refine ⟨first, rest, hsplit, ?_⟩
    have hcolumn' : ¬ f.column.isEmpty := by simpa using hcolumn
    rw [Filter.predicate?, if_neg hcolumn', hoperator, Option.map_some, Operator.test, hvalue,
      hsplit]

end TableExplorer.Text
