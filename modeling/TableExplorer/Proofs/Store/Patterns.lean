import Mathlib.Data.List.TakeWhile
import TableExplorer.Proofs.Store.Filters

/-!
# Patterns between two percent signs

A filter for containing texts puts the text that it is given between two percent signs, as it is. A
percent sign in a pattern takes any run of characters, itself among them, and an underscore takes
any character, itself among them; so every text matches itself, whatever it holds, and no text that
contains the given one is missed. What is found beyond that is due to the case of ASCII letters and
to the two signs in the given text: without them, a text is found only if it contains the given one
but for case.

Main result: `Warehouse.contains_found`.
-/

namespace TableExplorer.Store

/-! ## What a pattern matches -/

theorem matchesPattern_nil {text : List Char} : matchesPattern [] text = true ↔ text = [] := by
  cases text <;> simp [matchesPattern]

/-- A percent sign takes any run of characters from the front of a text. -/
theorem matchesPattern_percent {pattern text : List Char} :
    matchesPattern ('%' :: pattern) text = true ↔
      ∃ run rest, text = run ++ rest ∧ matchesPattern pattern rest = true := by
  induction text with
  | nil =>
    rw [matchesPattern]
    simp
  | cons c text ih =>
    rw [matchesPattern, if_pos rfl, Bool.or_eq_true, ih]
    constructor
    · rintro (hhere | ⟨run, rest, rfl, hrest⟩)
      · exact ⟨[], c :: text, rfl, hhere⟩
      · exact ⟨c :: run, rest, rfl, hrest⟩
    · rintro ⟨run, rest, htext, hrest⟩
      cases run with
      | nil =>
        rw [List.nil_append] at htext
        exact .inl (htext ▸ hrest)
      | cons d run =>
        obtain ⟨rfl, rfl⟩ := List.cons.inj htext
        exact .inr ⟨run, rest, rfl, hrest⟩

/-- Any other sign takes one character: an underscore any, a letter its kind in either case. -/
theorem matchesPattern_cons {p c : Char} (hp : p ≠ '%') {pattern text : List Char} :
    matchesPattern (p :: pattern) (c :: text) = true ↔
      (p = '_' ∨ Text.asciiLower p = Text.asciiLower c) ∧ matchesPattern pattern text = true := by
  rw [matchesPattern, if_neg hp]
  simp

theorem matchesPattern_cons_nil {p : Char} (hp : p ≠ '%') (pattern : List Char) :
    matchesPattern (p :: pattern) [] = false := by
  rw [matchesPattern, if_neg hp]

/-- **A text matches itself**, whatever signs it holds: in front of a pattern it takes itself. -/
theorem matchesPattern_append_self (run : List Char) {pattern text : List Char}
    (h : matchesPattern pattern text = true) :
    matchesPattern (run ++ pattern) (run ++ text) = true := by
  induction run with
  | nil => exact h
  | cons c run ih =>
    rw [List.cons_append, List.cons_append]
    by_cases hc : c = '%'
    · subst hc
      exact matchesPattern_percent.2 ⟨['%'], run ++ text, rfl, ih⟩
    · exact (matchesPattern_cons hc).2 ⟨.inr rfl, ih⟩

/-- A text without the two signs takes a run that is the same but for case. -/
theorem matchesPattern_append {plain pattern text : List Char} (hpercent : '%' ∉ plain)
    (hunderscore : '_' ∉ plain) :
    matchesPattern (plain ++ pattern) text = true ↔ ∃ run rest, text = run ++ rest ∧
      run.map Text.asciiLower = plain.map Text.asciiLower ∧ matchesPattern pattern rest = true := by
  induction plain generalizing text with
  | nil => simp
  | cons p plain ih =>
    rw [List.mem_cons, not_or] at hpercent hunderscore
    have hp : p ≠ '%' := Ne.symm hpercent.1
    rw [List.cons_append]
    cases text with
    | nil =>
      rw [matchesPattern_cons_nil hp]
      simp
    | cons c text =>
      rw [matchesPattern_cons hp, ih hpercent.2 hunderscore.2]
      constructor
      · rintro ⟨hletter, run, rest, rfl, hrun, hrest⟩
        rcases hletter with hany | hletter
        · exact absurd hany.symm hunderscore.1
        · exact ⟨c :: run, rest, rfl, by rw [List.map_cons, List.map_cons, hletter, hrun], hrest⟩
      · rintro ⟨run, rest, htext, hrun, hrest⟩
        cases run with
        | nil => simp at hrun
        | cons d run =>
          obtain ⟨rfl, rfl⟩ := List.cons.inj htext
          obtain ⟨hletter, hrun⟩ := List.cons.inj hrun
          exact ⟨.inr hletter.symm, run, rest, rfl, hrun, hrest⟩

/-! ## Between two percent signs -/

/-- A text between two percent signs. -/
def between (v : List Char) : List Char := '%' :: (v ++ ['%'])

theorem matchesPattern_between {v text : List Char} :
    matchesPattern (between v) text = true ↔
      ∃ run rest, text = run ++ rest ∧ matchesPattern (v ++ ['%']) rest = true :=
  matchesPattern_percent

theorem matchesPattern_end (text : List Char) : matchesPattern ['%'] text = true :=
  matchesPattern_percent.2 ⟨text, [], by simp, matchesPattern_nil.2 rfl⟩

/-- **A text that contains another is found by it**, whatever signs the other holds. -/
theorem matchesPattern_between_of_contains {v text : List Char} (h : v <:+: text) :
    matchesPattern (between v) text = true := by
  obtain ⟨front, back, rfl⟩ := h
  rw [List.append_assoc]
  exact matchesPattern_between.2
    ⟨front, v ++ back, rfl, matchesPattern_append_self v (matchesPattern_end back)⟩

/-- **Without the two signs**, what is found is what contains the text but for case. -/
theorem matchesPattern_between_iff {v text : List Char} (hpercent : '%' ∉ v)
    (hunderscore : '_' ∉ v) :
    matchesPattern (between v) text = true ↔
      v.map Text.asciiLower <:+: text.map Text.asciiLower := by
  rw [matchesPattern_between]
  constructor
  · rintro ⟨front, rest, rfl, hrest⟩
    obtain ⟨run, back, rfl, hrun, -⟩ := (matchesPattern_append hpercent hunderscore).1 hrest
    refine ⟨front.map Text.asciiLower, back.map Text.asciiLower, ?_⟩
    rw [← hrun, List.map_append, List.map_append, List.append_assoc]
  · rintro ⟨front, back, htext⟩
    obtain ⟨run', back', rfl, hrun', -⟩ := List.map_eq_append_iff.1 htext.symm
    obtain ⟨front', run, rfl, -, hrun⟩ := List.map_eq_append_iff.1 hrun'
    exact ⟨front', run ++ back', by rw [List.append_assoc],
      (matchesPattern_append hpercent hunderscore).2 ⟨run, back', rfl, hrun, matchesPattern_end _⟩⟩

/-! ## Texts of cells -/

/-- A text without NUL, which counts as a whole. -/
def NulFree (s : String) : Prop := ∀ c ∈ s.toList, c.toNat ≠ 0

instance (s : String) : Decidable (NulFree s) :=
  List.decidableBAll (fun c : Char => c.toNat ≠ 0) s.toList

theorem untilNul_eq {s : String} (h : NulFree s) : untilNul s = s.toList := by
  rw [untilNul, List.takeWhile_eq_self_iff]
  intro c hc
  simp [h c hc]

theorem untilNul_between {v : String} (h : NulFree v) :
    untilNul ("%" ++ v ++ "%") = between v.toList := by
  have htext : ("%" ++ v ++ "%").toList = between v.toList := by
    simp [between]
  rw [untilNul_eq, htext]
  intro c hc
  rw [htext, between, List.mem_cons, List.mem_append, List.mem_singleton] at hc
  rcases hc with rfl | hc | rfl
  · decide
  · exact h c hc
  · decide

namespace Warehouse

variable {w : Warehouse} {table column : String} {t : ColumnType} {op : Operator} {v : String}
  {row : List Cell}

theorem exists_bindTest_like (hkeeps : t.keepsTexts = true) (hop : op = .like ∨ op = .ilike) :
    ∃ test, Run.bindTest t (op.test v) = .ok test ∧ ∀ a cell, test.selects a cell = true ↔
      cell.isLike (.text ("%" ++ v ++ "%")) = some true := by
  have hbind := ColumnType.bind_of_keepsTexts hkeeps ("%" ++ v ++ "%")
  rcases hop with rfl | rfl
  · refine ⟨.compare .like (.text ("%" ++ v ++ "%")), ?_, ?_⟩
    · simp [Operator.test, Run.bindTest, hbind, Except.map]
    · simp [BoundTest.selects, Cell.satisfies]
  · refine ⟨.compare .ilike (.text ("%" ++ v ++ "%")), ?_, ?_⟩
    · simp [Operator.test, Run.bindTest, hbind, Except.map]
    · simp [BoundTest.selects, Cell.satisfies]

theorem mem_passing_like (hcolumn : column ≠ "")
    (htype : Dict.get? (w.columnsOf table) column = some t) (hkeeps : t.keepsTexts = true)
    (hop : op = .like ∨ op = .ilike) (hrow : row ∈ (w.tableOf table).rows) :
    row ∈ w.passing table column op v ↔
      ((w.tableOf table).cell column row).isLike (.text ("%" ++ v ++ "%")) = some true := by
  obtain ⟨test, htest, hselects⟩ := exists_bindTest_like (v := v) hkeeps hop
  rw [mem_passing hcolumn htype hrow, htest,
    ← hselects ((w.tableOf table).affinityOf column) ((w.tableOf table).cell column row)]
  simp

/-- **No containing text is missed.** In a column that binds texts as they are, the filters for
containing texts select each row whose text contains the value, whatever signs the value holds. A
value without the two signs selects only what contains it but for the case of ASCII letters, and no
null is selected. The request for these rows is answered, with their number. -/
theorem contains_found (hcolumn : column ≠ "")
    (htype : Dict.get? (w.columnsOf table) column = some t) (hkeeps : t.keepsTexts = true)
    (hop : op = .like ∨ op = .ilike) (hv : NulFree v) :
    (w.Current → ∃ response, (w.query (filterRequest table column op v)).1 = .ok response ∧
      response.error = none ∧
      response.count = some ((w.passing table column op v).length : Int)) ∧
    ∀ row ∈ (w.tableOf table).rows,
      ((w.tableOf table).cell column row = .null → row ∉ w.passing table column op v) ∧
      ∀ s, (w.tableOf table).cell column row = .text s → NulFree s →
        (v.toList <:+: s.toList → row ∈ w.passing table column op v) ∧
        ('%' ∉ v.toList → '_' ∉ v.toList → (row ∈ w.passing table column op v ↔
          v.toList.map Text.asciiLower <:+: s.toList.map Text.asciiLower)) := by
  constructor
  · intro hw
    obtain ⟨test, htest, -⟩ := exists_bindTest_like (v := v) hkeeps hop
    exact (query_filterRequest hw hcolumn htype).2 test htest fun row _ =>
      ColumnType.exists_read_of_keepsTexts hkeeps _
  · intro row hrow
    rw [mem_passing_like hcolumn htype hkeeps hop hrow]
    constructor
    · intro hnull
      simp [hnull, Cell.isLike, Cell.patternText?]
    · intro s hcell hs
      have hlike : ((w.tableOf table).cell column row).isLike (.text ("%" ++ v ++ "%")) =
          some (matchesPattern (between v.toList) s.toList) := by
        rw [hcell, ← untilNul_between hv, ← untilNul_eq hs]
        rfl
      rw [hlike, Option.some_inj]
      exact ⟨matchesPattern_between_of_contains, matchesPattern_between_iff⟩

/-- A table with texts. -/
def notes : Warehouse where
  database := Database.create {} "t" [{ name := "s", declared := "VARCHAR(40)" }]
    [[.text "up 100% Now"], [.text "up 100 now"], [.null]]

/-- A value with a percent sign finds the text that contains it, and one without also a text in
another case. -/
theorem contains_found_notes :
    let w := notes
    ("s" ≠ "" ∧ Dict.get? (w.columnsOf "t") "s" = some { name := .varchar, args := [40] } ∧
      ({ name := .varchar, args := [40] } : ColumnType).keepsTexts = true ∧ w.Current ∧
      NulFree "100% N" ∧ NulFree "NOW") ∧
    (∃ response, (w.query (filterRequest "t" "s" .ilike "NOW")).1 = .ok response ∧
      response.error = none ∧
      response.count = some ((w.passing "t" "s" .ilike "NOW").length : Int)) ∧
    [.text "up 100% Now"] ∈ w.passing "t" "s" .like "100% N" ∧
    [.text "up 100 now"] ∈ w.passing "t" "s" .ilike "NOW" ∧
    [.null] ∉ w.passing "t" "s" .ilike "NOW" := by
  intro w
  have hcolumn : "s" ≠ "" := by decide
  have htype : Dict.get? (w.columnsOf "t") "s" = some { name := .varchar, args := [40] } := by
    decide +kernel
  have hcurrent : w.Current := current_of_no_views rfl Registry.knownJoins
  have hsigns : NulFree "100% N" := by decide +kernel
  have hplain : NulFree "NOW" := by decide +kernel
  have hrows : ∀ row ∈ [[.text "up 100% Now"], [.text "up 100 now"], [.null]],
      row ∈ (w.tableOf "t").rows := by decide +kernel
  obtain ⟨-, hlike⟩ := contains_found hcolumn htype rfl (.inl rfl) hsigns
  obtain ⟨hanswer, hilike⟩ := contains_found hcolumn htype rfl (.inr rfl) hplain
  refine ⟨⟨hcolumn, htype, rfl, hcurrent, hsigns, hplain⟩, hanswer hcurrent, ?_, ?_, ?_⟩
  · refine ((hlike _ (hrows _ (by simp))).2 "up 100% Now" (by decide +kernel) ?_).1 ?_
    · decide +kernel
    · decide +kernel
  · refine (((hilike _ (hrows _ (by simp))).2 "up 100 now" (by decide +kernel) ?_).2 ?_ ?_).2 ?_
    · decide +kernel
    · decide +kernel
    · decide +kernel
    · decide +kernel
  · exact (hilike _ (hrows _ (by simp))).1 (by decide +kernel)

end Warehouse

end TableExplorer.Store
