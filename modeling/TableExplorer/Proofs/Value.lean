import TableExplorer.Value.Basic

/-!
# Texts of values

A value that says something has a text, so its label is empty exactly if the value says nothing.
-/

namespace TableExplorer

theorem Text.append_ne_empty_left {s : String} (h : s ≠ "") (t : String) : s ++ t ≠ "" :=
  fun heq => h (String.append_eq_empty_iff.1 heq).1

theorem Text.append_ne_empty_right (s : String) {t : String} (h : t ≠ "") : s ++ t ≠ "" :=
  fun heq => h (String.append_eq_empty_iff.1 heq).2

theorem Text.ofInt_ne_empty (i : Int) : Text.ofInt i ≠ "" := by
  have hdigits : Nat.repr i.natAbs ≠ "" := Nat.repr_ne_empty
  unfold Text.ofInt
  split
  · exact Text.append_ne_empty_right _ hdigits
  · exact hdigits

namespace Double

theorem withSign_ne_empty (negative : Bool) {s : String} (h : s ≠ "") :
    withSign negative s ≠ "" := by
  cases negative with
  | false => exact h
  | true => exact Text.append_ne_empty_right _ h

theorem Layout.render_ne_empty (l : Layout) (d : Digits) : l.render d ≠ "" := by
  have hdigits : (if d.digits.isEmpty then ['0'] else d.digits) ≠ [] := by
    cases d.digits <;> simp
  unfold Layout.render
  extract_lets ds whole filled fraction rest
  split
  · split
    · simp
    · refine Text.append_ne_empty_left ?_ _
      have hfilled : filled.take whole ≠ [] := by
        simp only [filled, whole, ne_eq, List.take_eq_nil_iff, List.append_eq_nil_iff]
        rintro (h | h)
        · omega
        · exact hdigits h.1
      simpa using hfilled
  · refine Text.append_ne_empty_right _ (Text.append_ne_empty_left ?_ _)
    split <;> simp

theorem text_ne_empty (d : Double) : d.text ≠ "" := by
  cases d with
  | nan => simp [text]
  | infinite negative => exact withSign_ne_empty negative (by simp)
  | finite negative units =>
    refine withSign_ne_empty negative ?_
    split
    · simp
    · exact Layout.render_ne_empty _ _

end Double

namespace Value

theorem display_ne_empty {v : Value} (h : v.isTruthy) : v.display ≠ "" := by
  cases v with
  | null => simp [isTruthy] at h
  | bool b => cases b <;> simp [display, shown]
  | int i => simpa [display, shown] using Text.ofInt_ne_empty i
  | real d => simpa [display, shown] using d.text_ne_empty
  | text s => simpa [isTruthy, display] using h
  | list members => simp [display, shown]
  | record fields => simp [display, shown]

theorem isEmpty_label (v : Value) : v.label.isEmpty = !v.isTruthy := by
  unfold label
  cases h : v.isTruthy with
  | false => rfl
  | true => simpa using display_ne_empty h

end Value

end TableExplorer
