import TableExplorer.Proofs.Json.Tokens

/-!
# The reader follows the grammar

What is said in a dialect with integers that are not too long is read, if a value ends where the
text does or in front of white space or a sign. The steps of the reader suffice, since each takes a
character at least. Conversely, whatever is read is said in the dialect of the reader. So a text is
read exactly as what it says.

Main result: `read_eq_ok_iff`.
-/

namespace TableExplorer.Json

/-! ## Values -/

/-- The reader gives what a front says. -/
def IsRead (cs rest : List Char) : Part → Prop
  | .value v => Ends rest → ∀ fuel, cs.length ≤ fuel + rest.length → value fuel cs = .ok (v, rest)
  | .members vs => ∀ fuel, cs.length ≤ fuel + rest.length → members fuel cs = .ok (vs, rest)
  | .fields fs => ∀ fuel, cs.length ≤ fuel + rest.length → fields fuel cs = .ok (fs, rest)

theorem isSpace_of_mem_valueStarts {c : Char} (h : c ∈ valueStarts) : isSpace c = false := by
  rw [← Bool.not_eq_true]
  intro hspace
  simp only [isSpace, Bool.or_eq_true, decide_eq_true_eq] at hspace
  rcases hspace with ((rfl | rfl) | rfl) | rfl <;> exact absurd h (by decide)

theorem skipSpace_of_begins {cs front rest : List Char} (hblanks : Blanks cs front)
    (hfront : Begins front rest) : skipSpace cs = front := by
  obtain ⟨c, behind, rfl, hc, -⟩ := hfront
  refine skipSpace_of_blanks hblanks ?_
  intro c' hc'
  cases hc'
  exact isSpace_of_mem_valueStarts hc

theorem skipSpace_of_sign {c : Char} {cs rest : List Char} (hblanks : Blanks cs (c :: rest))
    (hc : isSpace c = false) : skipSpace cs = c :: rest := by
  refine skipSpace_of_blanks hblanks ?_
  intro c' hc'
  cases hc'
  exact hc

theorem ends_of_blanks {c : Char} {cs rest : List Char} (hblanks : Blanks cs (c :: rest))
    (hc : c ∈ [',', ']', '\x7d']) : Ends cs := by
  intro c' hc'
  cases hblanks with
  | nil =>
    cases hc'
    exact .inr hc
  | cons hspace =>
    cases hc'
    exact .inl hspace

theorem Begins.exists_fuel {cs rest : List Char} (h : Begins cs rest) {fuel : Nat}
    (hfuel : cs.length ≤ fuel + rest.length) : ∃ f, fuel = f + 1 := by
  have hlength := h.length_lt
  exact ⟨fuel - 1, by omega⟩

theorem value_other {c : Char} (hc : c ∉ ['"', '\x7b', '[']) (fuel : Nat) (rest : List Char) :
    value (fuel + 1) (c :: rest) =
      match word? (c :: rest) with
      | some found => .ok found
      | none =>
        if c = '-' then number (c :: rest) true rest else number (c :: rest) false (c :: rest) := by
  simp only [List.mem_cons, List.not_mem_nil, or_false, not_or] at hc
  rw [value, if_neg hc.1, if_neg hc.2.1]
  exact if_neg hc.2.2

theorem value_number {d : Dialect} (hd : ∀ n, d.digits n → n ≤ maxIntegerDigits)
    {cs rest : List Char} {v : Value} (h : Number d cs v rest) (hrest : Ends rest) (fuel : Nat) :
    value (fuel + 1) cs = .ok (v, rest) := by
  have hword := word?_of_number h
  cases h with
  | plus hcs =>
    obtain ⟨c, behind, n, rfl, hdigit, -⟩ := hcs.exists_digit
    have hminus : c ≠ '-' := by
      rintro rfl
      exact not_mem_wordStarts hdigit (by decide)
    have hc : c ∉ ['"', '\x7b', '['] := by
      intro hc
      simp only [List.mem_cons, List.not_mem_nil, or_false] at hc
      rcases hc with rfl | rfl | rfl <;> exact absurd hdigit (by simp [Text.asciiDigit?])
    rw [value_other hc, hword]
    simp only [if_neg hminus]
    exact number_of_unsigned hcs hd hrest _
  | minus hcs =>
    rw [value_other (by decide), hword]
    exact number_of_unsigned hcs hd hrest _

theorem value_word {w : List Char} {v : Value} (h : (w, v) ∈ words) (rest : List Char)
    (fuel : Nat) : value (fuel + 1) (w ++ rest) = .ok (v, rest) := by
  have hfound := word?_append h rest
  obtain ⟨c, behind, rfl, hc, -⟩ := word_begins h
  have hother : c ∉ ['"', '\x7b', '['] := by
    intro hmem
    simp only [List.mem_cons, List.not_mem_nil, or_false] at hmem
    rcases hmem with rfl | rfl | rfl <;> exact absurd hc (by decide)
  rw [List.cons_append] at hfound ⊢
  rw [value_other hother, hfound]

theorem value_list {cs front rest : List Char} {vs : List Value} {fuel : Nat}
    (hblanks : Blanks cs front) (hfront : Begins front rest)
    (hmembers : members fuel front = .ok (vs, rest)) :
    value (fuel + 1) ('[' :: cs) = .ok (.list vs, rest) := by
  have hskip := skipSpace_of_begins hblanks hfront
  obtain ⟨c, behind, rfl, hc, -⟩ := hfront
  rw [value, if_neg (by decide), if_neg (by decide), if_pos rfl, hskip]
  split
  · next hclose =>
    cases hclose
    exact absurd hc (by decide)
  · rw [hmembers]

theorem value_record {cs front rest : List Char} {fs : List (String × Value)} {fuel : Nat}
    (hblanks : Blanks cs front) (hfront : Begins front rest)
    (hfields : fields fuel front = .ok (fs, rest)) :
    value (fuel + 1) ('\x7b' :: cs) = .ok (.record (Dict.ofList fs), rest) := by
  have hskip := skipSpace_of_begins hblanks hfront
  obtain ⟨c, behind, rfl, hc, -⟩ := hfront
  rw [value, if_neg (by decide), if_pos rfl, hskip]
  split
  · next hclose =>
    cases hclose
    exact absurd hc (by decide)
  · rw [hfields]

/-- A value in front of white space and a sign is read up to there. -/
theorem read_in_front {c : Char} {cs behind rest : List Char} {v : Value} (fuel : Nat)
    (h : IsRead cs behind (.value v)) (hblanks : Blanks behind (c :: rest))
    (hc : c ∈ [',', ']', '\x7d']) (hfuel : cs.length ≤ fuel + 1 + rest.length) :
    value fuel cs = .ok (v, behind) ∧ skipSpace behind = c :: rest := by
  have hlength := hblanks.front.length_le
  rw [List.length_cons] at hlength
  refine ⟨h (ends_of_blanks hblanks hc) fuel (by omega), skipSpace_of_sign hblanks ?_⟩
  simp only [List.mem_cons, List.not_mem_nil, or_false] at hc
  rcases hc with rfl | rfl | rfl <;> rfl

/-- The value of a field stands behind its name and a colon. -/
theorem length_named {d : Dialect} {cs named colon front : List Char} {name : String}
    (hname : StringText d cs name named) (hcolon : Blanks named (':' :: colon))
    (hfront : Blanks colon front) : front.length < cs.length := by
  have hnamed := hname.begins.length_lt
  have hlength := hcolon.front.length_le
  have hlength' := hfront.front.length_le
  rw [List.length_cons] at hnamed hlength
  omega

/-- **What is said is read.** -/
theorem isRead_of_spells {d : Dialect} (hd : ∀ n, d.digits n → n ≤ maxIntegerDigits)
    {cs rest : List Char} {part : Part} (h : Spells d cs part rest) : IsRead cs rest part := by
  have hbegins := h.begins
  induction h with
  | text hcs =>
    intro _ fuel hfuel
    obtain ⟨fuel, rfl⟩ := hbegins.exists_fuel hfuel
    rw [value, if_pos rfl, stringBody_of_text hcs]
  | number hcs =>
    intro hrest fuel hfuel
    obtain ⟨fuel, rfl⟩ := hbegins.exists_fuel hfuel
    exact value_number hd hcs hrest fuel
  | word hw =>
    intro _ fuel hfuel
    obtain ⟨fuel, rfl⟩ := hbegins.exists_fuel hfuel
    exact value_word hw _ fuel
  | emptyList hblanks =>
    intro _ fuel hfuel
    obtain ⟨fuel, rfl⟩ := hbegins.exists_fuel hfuel
    rw [value, if_neg (by decide), if_neg (by decide), if_pos rfl,
      skipSpace_of_sign hblanks (by decide)]
    rfl
  | list hblanks hmembers ih =>
    intro _ fuel hfuel
    obtain ⟨fuel, rfl⟩ := hbegins.exists_fuel hfuel
    have hlength := hblanks.front.length_le
    rw [List.length_cons] at hfuel
    exact value_list hblanks hmembers.begins (ih hmembers.begins fuel (by omega))
  | emptyRecord hblanks =>
    intro _ fuel hfuel
    obtain ⟨fuel, rfl⟩ := hbegins.exists_fuel hfuel
    rw [value, if_neg (by decide), if_pos rfl, skipSpace_of_sign hblanks (by decide)]
    rfl
  | record hblanks hfields ih =>
    intro _ fuel hfuel
    obtain ⟨fuel, rfl⟩ := hbegins.exists_fuel hfuel
    have hlength := hblanks.front.length_le
    rw [List.length_cons] at hfuel
    exact value_record hblanks hfields.begins (ih hfields.begins fuel (by omega))
  | lastMember hvalue hblanks ih =>
    intro fuel hfuel
    obtain ⟨fuel, rfl⟩ := hbegins.exists_fuel hfuel
    obtain ⟨hread, hskip⟩ := read_in_front fuel (ih hvalue.begins) hblanks (by decide) hfuel
    rw [members, hread]
    simp only [hskip]
  | nextMember hvalue hblanks hnext hmembers ih ihrest =>
    intro fuel hfuel
    obtain ⟨fuel, rfl⟩ := hbegins.exists_fuel hfuel
    have hlength := hnext.front.length_le
    have hrest := hmembers.begins.length_lt
    obtain ⟨hread, hskip⟩ := read_in_front fuel (ih hvalue.begins) hblanks (by decide) (by omega)
    have hbehind := (hvalue.begins.trans (hblanks.front_sign (by decide))).length_lt
    rw [members, hread]
    simp only [hskip, skipSpace_of_begins hnext hmembers.begins,
      ihrest hmembers.begins fuel (by omega)]
  | lastField hname hcolon hfront hvalue hblanks ih =>
    intro fuel hfuel
    obtain ⟨fuel, rfl⟩ := hbegins.exists_fuel hfuel
    have hnamed := length_named hname hcolon hfront
    rw [List.length_cons] at hfuel
    obtain ⟨hread, hskip⟩ := read_in_front fuel (ih hvalue.begins) hblanks (by decide) (by omega)
    rw [fields, stringBody_of_text hname]
    simp only [skipSpace_of_sign hcolon (by decide), skipSpace_of_begins hfront hvalue.begins,
      hread, hskip]
  | nextField hname hcolon hfront hvalue hblanks hnext hfields ih ihrest =>
    intro fuel hfuel
    obtain ⟨fuel, rfl⟩ := hbegins.exists_fuel hfuel
    have hnamed := length_named hname hcolon hfront
    have hlength := hnext.front.length_le
    have hrest := hfields.begins.length_lt
    rw [List.length_cons] at hfuel
    obtain ⟨hread, hskip⟩ := read_in_front fuel (ih hvalue.begins) hblanks (by decide) (by omega)
    have hbehind := (hvalue.begins.trans (hblanks.front_sign (by decide))).length_lt
    rw [fields, stringBody_of_text hname]
    simp only [skipSpace_of_sign hcolon (by decide), skipSpace_of_begins hfront hvalue.begins,
      hread, hskip, skipSpace_of_begins hnext hfields.begins,
      ihrest hfields.begins fuel (by omega)]

/-! ## What is read is said -/

section Steps

variable {fuel : Nat}
  (hvalue : ∀ {cs v rest}, value fuel cs = .ok (v, rest) → Spells .readable cs (.value v) rest)
  (hmembers : ∀ {cs vs rest}, members fuel cs = .ok (vs, rest) →
    Spells .readable cs (.members vs) rest)
  (hfields : ∀ {cs fs rest}, fields fuel cs = .ok (fs, rest) →
    Spells .readable cs (.fields fs) rest)

include hmembers hfields in
theorem spells_value {cs rest : List Char} {v : Value}
    (h : value (fuel + 1) cs = .ok (v, rest)) : Spells .readable cs (.value v) rest := by
  cases cs with
  | nil =>
    rw [value] at h
    · cases h
    · simp
  | cons c cs =>
    rw [value] at h
    split at h
    · next hc =>
      subst hc
      split at h
      · next s behind hbody =>
        cases h
        exact .text (text_of_stringBody hbody)
      · cases h
    · split at h
      · next hc =>
        subst hc
        have hblanks := blanks_skipSpace cs
        split at h
        · next behind hskip =>
          cases h
          rw [hskip] at hblanks
          exact .emptyRecord hblanks
        · split at h
          · next hread =>
            cases h
            exact .record hblanks (hfields hread)
          · cases h
      · split at h
        · next hc =>
          subst hc
          have hblanks := blanks_skipSpace cs
          split at h
          · next behind hskip =>
            cases h
            rw [hskip] at hblanks
            exact .emptyList hblanks
          · split at h
            · next hread =>
              cases h
              exact .list hblanks (hmembers hread)
            · cases h
        · split at h
          · next found hfound =>
            cases h
            obtain ⟨w, hw, hcs⟩ := of_word? hfound
            rw [hcs]
            exact .word hw
          · split at h
            · next hc =>
              subst hc
              exact .number (.minus (unsigned_of_number h))
            · exact .number (.plus (unsigned_of_number h))

include hvalue hmembers in
theorem spells_members {cs rest : List Char} {vs : List Value}
    (h : members (fuel + 1) cs = .ok (vs, rest)) : Spells .readable cs (.members vs) rest := by
  rw [members] at h
  split at h
  · cases h
  · next v behind hread =>
    have hblanks := blanks_skipSpace behind
    split at h
    · next hskip =>
      cases h
      rw [hskip] at hblanks
      exact .lastMember (hvalue hread) hblanks
    · next comma hskip =>
      rw [hskip] at hblanks
      split at h
      · next hrest =>
        cases h
        exact .nextMember (hvalue hread) hblanks (blanks_skipSpace comma) (hmembers hrest)
      · cases h
    · cases h

include hvalue hfields in
theorem spells_fields {cs rest : List Char} {fs : List (String × Value)}
    (h : fields (fuel + 1) cs = .ok (fs, rest)) : Spells .readable cs (.fields fs) rest := by
  unfold fields at h
  split at h
  · next cs =>
    split at h
    · cases h
    · next name named hname =>
      have hcolon := blanks_skipSpace named
      split at h
      · next colon hskipColon =>
        rw [hskipColon] at hcolon
        split at h
        · cases h
        · next v behind hread =>
          have hblanks := blanks_skipSpace behind
          split at h
          · next hskip =>
            cases h
            rw [hskip] at hblanks
            exact .lastField (text_of_stringBody hname) hcolon (blanks_skipSpace colon)
              (hvalue hread) hblanks
          · next comma hskip =>
            rw [hskip] at hblanks
            split at h
            · next hrest =>
              cases h
              exact .nextField (text_of_stringBody hname) hcolon (blanks_skipSpace colon)
                (hvalue hread) hblanks (blanks_skipSpace comma) (hfields hrest)
            · cases h
          · cases h
      · cases h
  · cases h

end Steps

/-- **What is read is said.** -/
theorem spells_of_read (fuel : Nat) :
    (∀ {cs v rest}, value fuel cs = .ok (v, rest) → Spells .readable cs (.value v) rest) ∧
    (∀ {cs vs rest}, members fuel cs = .ok (vs, rest) → Spells .readable cs (.members vs) rest) ∧
    (∀ {cs fs rest}, fields fuel cs = .ok (fs, rest) → Spells .readable cs (.fields fs) rest) := by
  induction fuel with
  | zero =>
    refine ⟨fun h => ?_, fun h => ?_, fun h => ?_⟩
    · rw [value] at h
      cases h
    · rw [members] at h
      cases h
    · rw [fields] at h
      cases h
  | succ fuel ih =>
    obtain ⟨hvalue, hmembers, hfields⟩ := ih
    exact ⟨spells_value hmembers hfields, spells_members hvalue hmembers,
      spells_fields hvalue hfields⟩

/-! ## Documents -/

/-- A document of a dialect that the reader follows is read as what it says. -/
theorem read_of_document {d : Dialect} (hd : ∀ n, d.digits n → n ≤ maxIntegerDigits) {s : String}
    {v : Value} (h : Document d s.toList v) : read s = .ok v := by
  obtain ⟨front, behind, hfront, hvalue, hbehind⟩ := h
  have hends : Ends behind := by
    intro c hc
    cases hbehind with
    | nil => cases hc
    | cons hspace =>
      cases hc
      exact .inl hspace
  have hlength := hfront.front.length_le
  have hread := isRead_of_spells hd hvalue hends (2 * s.toList.length + 2) (by omega)
  rw [read, skipSpace_of_begins hfront hvalue.begins]
  simp only [hread, skipSpace_of_blanks hbehind (by simp)]

/-- **The reader follows the grammar**: a text is read exactly as what it says in the dialect of the
reader. -/
theorem read_eq_ok_iff {s : String} {v : Value} :
    read s = .ok v ↔ Document .readable s.toList v := by
  constructor
  · intro h
    have hfront := blanks_skipSpace s.toList
    unfold read at h
    simp only at h
    split at h
    · cases h
    · next v' behind hread =>
      have hbehind := blanks_skipSpace behind
      split at h
      · next hend =>
        cases h
        rw [hend] at hbehind
        exact ⟨_, behind, hfront, (spells_of_read _).1 hread, hbehind⟩
      · cases h
  · exact read_of_document fun n hn => hn

end TableExplorer.Json
