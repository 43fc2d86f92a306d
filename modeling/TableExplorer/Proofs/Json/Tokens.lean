import TableExplorer.Proofs.Json.Grammar

/-!
# The scans of the reader

White space, strings, numbers and words are taken from the front of a text by scans, and each scan
takes the longest front that the grammar knows. So what the grammar finds there is what the scan
gives, if the text does not go on with what the scan would still take; and what a scan gives is
always what the grammar finds.

Main results: `stringBody_of_text`, `text_of_stringBody`, `number_of_unsigned` and
`unsigned_of_number`.
-/

namespace TableExplorer.Json

/-! ## White space -/

theorem blanks_skipSpace (cs : List Char) : Blanks cs (skipSpace cs) := by
  induction cs with
  | nil => exact .nil
  | cons c cs ih =>
    unfold skipSpace
    by_cases hc : isSpace c = true
    · rw [List.dropWhile_cons_of_pos hc]
      exact .cons hc ih
    · rw [List.dropWhile_cons_of_neg hc]
      exact .nil

theorem skipSpace_of_blanks {cs rest : List Char} (h : Blanks cs rest)
    (hrest : ∀ c ∈ rest.head?, isSpace c = false) : skipSpace cs = rest := by
  induction h with
  | @nil rest =>
    unfold skipSpace
    cases rest with
    | nil => rfl
    | cons c cs => rw [List.dropWhile_cons_of_neg (by simp [hrest c rfl])]
  | cons hc _ ih =>
    rw [← ih hrest, skipSpace, List.dropWhile_cons_of_pos hc, skipSpace]

/-! ## Strings -/

theorem Codes.exists_cons {cs rest : List Char} {us : List Nat} (h : Codes cs us rest) :
    ∃ c behind, cs = c :: behind := by
  cases h <;> exact ⟨_, _, rfl⟩

theorem shortEscape?_ne {e c : Char} (h : shortEscape? e = some c) : e ≠ 'u' := by
  have hu : shortEscape? 'u' = none := by decide
  rintro rfl
  rw [hu] at h
  cases h

theorem stringCodes_of_codes {cs rest : List Char} {us : List Nat} (h : Codes cs us rest)
    (opening : Nat) : stringCodes opening cs = .ok (us, rest) := by
  induction h with
  | close => rw [stringCodes]
  | plain hquote hslash hcontrol _ ih =>
    rw [stringCodes, if_neg (by omega), ih]
    all_goals simp_all
  | short he _ ih =>
    rw [stringCodes, if_neg (shortEscape?_ne he), he, ih]
    all_goals simp_all [shortEscape?_ne he]
  | numbered hn hcs ih =>
    obtain ⟨c, behind, rfl⟩ := hcs.exists_cons
    rw [stringCodes, hn, ih]

theorem codes_of_stringCodes {opening : Nat} {cs rest : List Char} {us : List Nat}
    (h : stringCodes opening cs = .ok (us, rest)) : Codes cs us rest := by
  fun_induction stringCodes opening cs generalizing us rest with
  | case2 rest =>
    cases h
    exact .close
  | case5 a b c d e behind n hn codes behind' hcodes ih =>
    cases h
    exact .numbered hn (ih hcodes)
  | case9 e behind hno hu c hc codes behind' hcodes ih =>
    cases h
    exact .short hc (ih hcodes)
  | case12 c behind hquote hlast hnumbered hshort hcontrol codes behind' hcodes ih =>
    cases h
    refine .plain hquote ?_ (Nat.le_of_not_lt hcontrol) (ih hcodes)
    intro hslash
    cases behind with
    | nil => exact hlast hslash rfl
    | cons d behind => exact hshort d behind hslash rfl
  | _ => cases h

/-! ## Code units -/

theorem scalar_of_not {u : Nat} (hhigh : ¬IsHigh u) (hlow : ¬IsLow u) :
    Text.scalar u = Char.ofNat u := by
  unfold IsHigh at hhigh
  unfold IsLow at hlow
  rw [Text.scalar, if_neg (by omega)]

theorem scalar_of_half {u : Nat} (h : IsHigh u ∨ IsLow u) : Text.scalar u = '\ufffd' := by
  unfold IsHigh IsLow at h
  rw [Text.scalar, if_pos (by omega)]

theorem pairUnits_cons {u : Nat} {us : List Nat} (h : IsHigh u → ∀ v ∈ us.head?, ¬IsLow v) :
    Text.pairUnits (u :: us) = Text.scalar u :: Text.pairUnits us := by
  cases us with
  | nil => rfl
  | cons v us =>
    rw [Text.pairUnits, if_neg]
    rintro ⟨h1, h2, h3, h4⟩
    exact h ⟨h1, h2⟩ v rfl ⟨h3, h4⟩

theorem pairUnits_of_joined {lone : Prop} {us : List Nat} {cs : List Char}
    (h : Joined lone us cs) : Text.pairUnits us = cs := by
  induction h with
  | nil => rfl
  | scalar hhigh hlow _ ih =>
    rw [pairUnits_cons fun h => absurd h hhigh, scalar_of_not hhigh hlow, ih]
  | pair hu hv _ ih => rw [Text.pairUnits, if_pos ⟨hu.1, hu.2, hv.1, hv.2⟩, ih]
  | @alone u us cs _ hu _ ih =>
    have hhalf : IsHigh u ∨ IsLow u := hu.symm.imp_left And.left
    have hnext : IsHigh u → ∀ v ∈ us.head?, ¬IsLow v := by
      intro hhigh
      rcases hu with hlow | ⟨-, hnext⟩
      · exact absurd hhigh.2 (Nat.not_lt.2 hlow.1)
      · exact hnext
    rw [pairUnits_cons hnext, scalar_of_half hhalf, ih]

theorem joined_cons {u : Nat} {us : List Nat} {cs : List Char}
    (h : IsHigh u → ∀ v ∈ us.head?, ¬IsLow v) (hus : Joined True us cs) :
    Joined True (u :: us) (Text.scalar u :: cs) := by
  by_cases hhigh : IsHigh u
  · rw [scalar_of_half (.inl hhigh)]
    exact .alone trivial (.inr ⟨hhigh, h hhigh⟩) hus
  by_cases hlow : IsLow u
  · rw [scalar_of_half (.inr hlow)]
    exact .alone trivial (.inl hlow) hus
  · rw [scalar_of_not hhigh hlow]
    exact .scalar hhigh hlow hus

theorem joined_pairUnits (us : List Nat) : Joined True us (Text.pairUnits us) := by
  fun_induction Text.pairUnits us with
  | case1 => exact .nil
  | case2 u => exact joined_cons (by simp) .nil
  | case3 u v us hpair ih => exact .pair ⟨hpair.1, hpair.2.1⟩ hpair.2.2 ih
  | case4 u v us hpair ih =>
    refine joined_cons (fun hhigh w hw hlow => hpair ?_) ih
    cases hw
    exact ⟨hhigh.1, hhigh.2, hlow.1, hlow.2⟩

theorem stringBody_of_text {d : Dialect} {cs rest : List Char} {s : String}
    (h : StringText d cs s rest) : stringBody cs = .ok (s, rest) := by
  obtain ⟨us, hcodes, hjoined⟩ := h
  rw [stringBody, stringCodes_of_codes hcodes]
  simp only [pairUnits_of_joined hjoined, String.ofList_toList]

theorem text_of_stringBody {cs rest : List Char} {s : String} (h : stringBody cs = .ok (s, rest)) :
    StringText .readable cs s rest := by
  unfold stringBody at h
  split at h
  · next us behind hcodes =>
    cases h
    refine ⟨us, codes_of_stringCodes hcodes, ?_⟩
    rw [String.toList_ofList]
    exact joined_pairUnits us
  · cases h

/-! ## Numbers -/

/-- A text that does not go on with a digit. -/
def NoDigit (cs : List Char) : Prop := ∀ c ∈ cs.head?, Text.asciiDigit? c = none

theorem spanDigits_of_digits {cs rest : List Char} {ns : List Nat} (h : Digits cs ns rest)
    (hrest : NoDigit rest) : Text.spanDigits cs = (ns, rest) := by
  induction h with
  | @last c n rest hc =>
    have hend : Text.spanDigits rest = ([], rest) := by
      cases rest with
      | nil => rfl
      | cons d rest => simp [Text.spanDigits, hrest d rfl]
    simp [Text.spanDigits, hc, hend]
  | more hc _ ih => simp [Text.spanDigits, hc, ih hrest]

theorem of_spanDigits {cs rest : List Char} {ns : List Nat} (h : Text.spanDigits cs = (ns, rest)) :
    ns = [] ∧ rest = cs ∨ Digits cs ns rest := by
  induction cs generalizing ns with
  | nil =>
    cases h
    exact .inl ⟨rfl, rfl⟩
  | cons c cs ih =>
    cases hc : Text.asciiDigit? c with
    | none =>
      simp only [Text.spanDigits, hc] at h
      cases h
      exact .inl ⟨rfl, rfl⟩
    | some n =>
      simp only [Text.spanDigits, hc] at h
      cases h
      rcases ih rfl with ⟨hns, hrest⟩ | hdigits
      · rw [hns, hrest]
        exact .inr (.last hc)
      · exact .inr (.more hc hdigits)

theorem Digits.ne_nil {cs rest : List Char} {ns : List Nat} (h : Digits cs ns rest) : ns ≠ [] := by
  cases h <;> exact List.cons_ne_nil _ _

theorem spanWhole_of_whole {cs rest : List Char} {ns : List Nat} (h : Whole cs ns rest)
    (hrest : NoDigit rest) : spanWhole cs = (ns, rest) := by
  cases h with
  | zero => rfl
  | digits hc hcs =>
    rw [spanWhole, spanDigits_of_digits hcs hrest]
    simpa using hc

theorem of_spanWhole {cs rest : List Char} {ns : List Nat} (h : spanWhole cs = (ns, rest)) :
    ns = [] ∨ Whole cs ns rest := by
  unfold spanWhole at h
  split at h
  · cases h
    exact .inr .zero
  · next hzero =>
    rcases of_spanDigits h with ⟨hns, -⟩ | hdigits
    · exact .inl hns
    · cases cs with
      | nil => cases hdigits
      | cons c cs =>
        refine .inr (.digits ?_ hdigits)
        rintro rfl
        exact hzero cs rfl

theorem spanFraction?_of_fraction {cs rest : List Char} {fraction : Option (List Nat)}
    (h : Fraction cs fraction rest) (hdigit : NoDigit rest) (hpoint : rest.head? ≠ some '.') :
    spanFraction? cs = (fraction, rest) := by
  cases h with
  | absent =>
    unfold spanFraction?
    split
    · exact absurd rfl hpoint
    · rfl
  | present hcs =>
    rw [spanFraction?, spanDigits_of_digits hcs hdigit]
    cases hcs <;> rfl

theorem fraction_of_spanFraction? {cs rest : List Char} {fraction : Option (List Nat)}
    (h : spanFraction? cs = (fraction, rest)) : Fraction cs fraction rest := by
  unfold spanFraction? at h
  split at h
  · split at h
    · cases h
      exact .absent
    · next hne hdigits =>
      cases h
      rcases of_spanDigits hdigits with ⟨hns, -⟩ | hdigits
      · exact absurd hns (by simpa using hne)
      · exact .present hdigits
  · cases h
    exact .absent

theorem splitSign_of_sign {cs digits rest : List Char} {negative : Bool} {ns : List Nat}
    (h : ExponentSign cs negative digits) (hdigits : Digits digits ns rest) :
    Text.splitSign cs = (negative, digits) := by
  cases h with
  | plus | minus => rfl
  | absent =>
    have hplus : Text.asciiDigit? '+' = none := by decide
    have hminus : Text.asciiDigit? '-' = none := by decide
    unfold Text.splitSign
    split
    · cases hdigits <;> simp_all
    · cases hdigits <;> simp_all
    · rfl

theorem sign_splitSign (cs : List Char) :
    ExponentSign cs (Text.splitSign cs).1 (Text.splitSign cs).2 := by
  unfold Text.splitSign
  split
  · exact .minus
  · exact .plus
  · exact .absent

theorem spanExponent?_of_exponent {cs rest : List Char} {exponent : Option Int}
    (h : Exponent cs exponent rest) (hdigit : NoDigit rest)
    (hletter : ∀ c ∈ rest.head?, c ≠ 'e' ∧ c ≠ 'E') :
    spanExponent? cs = (exponent, rest) := by
  cases h with
  | absent =>
    cases cs with
    | nil => rfl
    | cons c cs => simp [spanExponent?, hletter c rfl]
  | present hc hsign hcs =>
    rw [spanExponent?, if_pos (by simpa using hc), splitSign_of_sign hsign hcs]
    simp only [spanDigits_of_digits hcs hdigit]
    cases hcs <;> rfl

theorem exponent_of_spanExponent? {cs rest : List Char} {exponent : Option Int}
    (h : spanExponent? cs = (exponent, rest)) : Exponent cs exponent rest := by
  unfold spanExponent? at h
  split at h
  · cases h
    exact .absent
  · next c cs =>
    split at h
    · next hc =>
      simp only at h
      split at h
      · cases h
        exact .absent
      · next hne hdigits =>
        cases h
        rcases of_spanDigits hdigits with ⟨hns, -⟩ | hdigits
        · exact absurd hns (by simpa using hne)
        · exact .present (by simpa using hc) (sign_splitSign cs) hdigits
    · cases h
      exact .absent

/-- A text that does not go on with a value: it ends, or goes on with white space or a sign. -/
def Ends (cs : List Char) : Prop :=
  ∀ c ∈ cs.head?, isSpace c = true ∨ c ∈ [',', ']', '\x7d']

theorem Ends.no_number {cs : List Char} (h : Ends cs) :
    ∀ c ∈ cs.head?, Text.asciiDigit? c = none ∧ c ≠ '.' ∧ c ≠ 'e' ∧ c ≠ 'E' := by
  intro c hc
  have hsign := h c hc
  simp only [isSpace, Bool.or_eq_true, decide_eq_true_eq, List.mem_cons, List.not_mem_nil,
    or_false] at hsign
  rcases hsign with (((rfl | rfl) | rfl) | rfl) | rfl | rfl | rfl <;> decide

theorem Exponent.no_number {cs rest : List Char} {exponent : Option Int}
    (h : Exponent cs exponent rest) (hrest : Ends rest) :
    NoDigit cs ∧ cs.head? ≠ some '.' := by
  cases h with
  | absent =>
    refine ⟨fun c hc => (hrest.no_number c hc).1, fun hpoint => ?_⟩
    exact (hrest.no_number _ hpoint).2.1 rfl
  | @present c _ _ _ _ _ hletter _ _ =>
    have hletter : Text.asciiDigit? c = none ∧ c ≠ '.' := by
      rcases hletter with rfl | rfl <;> decide
    refine ⟨?_, by simpa using hletter.2⟩
    rintro c hc
    cases hc
    exact hletter.1

theorem Fraction.noDigit {cs rest : List Char} {fraction : Option (List Nat)}
    (h : Fraction cs fraction rest) (hrest : NoDigit rest) : NoDigit cs := by
  cases h with
  | absent => exact hrest
  | present =>
    rintro c hc
    cases hc
    decide

theorem Whole.ne_nil {cs rest : List Char} {ns : List Nat} (h : Whole cs ns rest) : ns ≠ [] := by
  cases h with
  | zero => exact List.cons_ne_nil _ _
  | digits _ hcs => exact hcs.ne_nil

theorem number_of_unsigned {d : Dialect} {negative : Bool} {cs rest : List Char} {v : Value}
    (h : Unsigned d negative cs v rest) (hd : ∀ n, d.digits n → n ≤ maxIntegerDigits)
    (hrest : Ends rest) (start : List Char) : number start negative cs = .ok (v, rest) := by
  cases h with
  | @parts _ c1 c2 whole fraction exponent hwhole hfraction hexponent hdigits =>
    obtain ⟨hdigit, hpoint⟩ := hexponent.no_number hrest
    have hne := hwhole.ne_nil
    have hspan := spanWhole_of_whole hwhole (hfraction.noDigit hdigit)
    have hend := spanExponent?_of_exponent hexponent (fun c hc => (hrest.no_number c hc).1)
      fun c hc => (hrest.no_number c hc).2.2
    unfold number
    rw [hspan]
    cases whole with
    | nil => exact absurd rfl hne
    | cons n ns =>
      simp only [spanFraction?_of_fraction hfraction hdigit hpoint, hend]
      cases fraction with
      | some fraction => rfl
      | none =>
        cases exponent with
        | some exponent => rfl
        | none =>
          have hlength := hd _ (hdigits rfl rfl)
          simp only [if_neg (Nat.not_lt.2 hlength)]
          rfl

theorem unsigned_of_number {start cs rest : List Char} {negative : Bool} {v : Value}
    (h : number start negative cs = .ok (v, rest)) : Unsigned .readable negative cs v rest := by
  unfold number at h
  split at h
  · cases h
  · next whole behind hne hspan =>
    have hwhole : Whole cs whole behind := by
      rcases of_spanWhole hspan with hnil | hwhole
      · exact absurd hnil (by simpa using hne)
      · exact hwhole
    cases hf : spanFraction? behind with
    | mk fraction c1 =>
      cases he : spanExponent? c1 with
      | mk exponent c2 =>
        have hfraction := fraction_of_spanFraction? hf
        have hexponent := exponent_of_spanExponent? he
        simp only [hf, he] at h
        cases fraction with
        | some digits =>
          cases h
          exact .parts hwhole hfraction hexponent (by simp)
        | none =>
          cases exponent with
          | some size =>
            cases h
            exact .parts hwhole hfraction hexponent (by simp)
          | none =>
            simp only at h
            split at h
            · cases h
            · next hlength =>
              cases h
              exact .parts hwhole hfraction hexponent fun _ _ => Nat.le_of_not_lt hlength

/-! ## Words -/

theorem word?_append {w : List Char} {v : Value} (h : (w, v) ∈ words) (rest : List Char) :
    word? (w ++ rest) = some (v, rest) := by
  simp only [words, List.mem_cons, List.not_mem_nil, or_false, Prod.mk.injEq] at h
  rcases h with ⟨rfl, rfl⟩ | ⟨rfl, rfl⟩ | ⟨rfl, rfl⟩ | ⟨rfl, rfl⟩ | ⟨rfl, rfl⟩ | ⟨rfl, rfl⟩ <;> rfl

theorem of_word? {cs rest : List Char} {v : Value} (h : word? cs = some (v, rest)) :
    ∃ w, (w, v) ∈ words ∧ cs = w ++ rest := by
  obtain ⟨⟨w, v'⟩, hw, hfound⟩ := List.exists_of_findSome?_eq_some h
  simp only at hfound
  split at hfound
  · next hprefix =>
    cases hfound
    obtain ⟨rest, rfl⟩ := List.isPrefixOf_iff_prefix.1 hprefix
    exact ⟨w, hw, by rw [List.drop_left]⟩
  · cases hfound

theorem not_mem_wordStarts {c : Char} {n : Nat} (h : Text.asciiDigit? c = some n) :
    c ∉ wordStarts := by
  intro hc
  simp only [wordStarts, List.mem_cons, List.not_mem_nil, or_false] at hc
  rcases hc with rfl | rfl | rfl | rfl | rfl | rfl <;> exact absurd h (by simp [Text.asciiDigit?])

theorem word?_of_number {d : Dialect} {cs rest : List Char} {v : Value} (h : Number d cs v rest) :
    word? cs = none := by
  cases hword : word? cs with
  | none => rfl
  | some found =>
    obtain ⟨w, hw, hcs⟩ := of_word? hword
    obtain ⟨c, behind, rfl, hc, -, hminus⟩ := word_begins hw
    subst hcs
    have hfirst : ∀ {negative : Bool} {c : Char} {cs rest : List Char} {v : Value},
        Unsigned d negative (c :: cs) v rest → c ∉ wordStarts := by
      intro negative c cs rest v hcs
      obtain ⟨c', behind, n, hsame, hdigit, -⟩ := hcs.exists_digit
      rw [(List.cons.inj hsame).1]
      exact not_mem_wordStarts hdigit
    cases h with
    | plus hcs => exact absurd hc (hfirst hcs)
    | minus hcs =>
      obtain ⟨w, rfl⟩ := List.head?_eq_some_iff.1 (hminus rfl)
      exact absurd (by decide) (hfirst hcs)

end TableExplorer.Json
