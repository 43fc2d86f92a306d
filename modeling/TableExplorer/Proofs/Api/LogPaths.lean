import TableExplorer.Proofs.Api.LogPages
import TableExplorer.Proofs.Store.Patterns

/-!
# Listings by the beginning of the path

A listing of the log may be restricted to paths by their beginning, which is matched as a pattern
with a percent sign behind it. No path that starts with the given text is missed. But the signs of a
pattern are not taken for themselves: an underscore stands for any character and a percent sign for
any run of them, the case of ASCII letters does not matter, and nothing behind a NUL counts. So the
entries that are listed and counted are those whose path starts with the given text only if the text
holds none of these characters. A text that is too long for a pattern is refused.

Main result: `listed_by_start`.
-/

namespace TableExplorer.Store

/-- A pattern with a percent sign behind it takes the texts with a front that the pattern takes. -/
theorem matchesPattern_append_percent {pattern text : List Char} :
    matchesPattern (pattern ++ ['%']) text = true ↔
      ∃ run rest, text = run ++ rest ∧ matchesPattern pattern run = true := by
  induction pattern generalizing text with
  | nil =>
    simp only [List.nil_append, matchesPattern_end, true_iff]
    exact ⟨[], text, rfl, matchesPattern_nil.2 rfl⟩
  | cons p pattern ih =>
    rw [List.cons_append]
    by_cases hp : p = '%'
    · subst hp
      rw [matchesPattern_percent]
      constructor
      · rintro ⟨skipped, rest, rfl, hrest⟩
        obtain ⟨run, rest, rfl, hrun⟩ := ih.1 hrest
        exact ⟨skipped ++ run, rest, (List.append_assoc ..).symm,
          matchesPattern_percent.2 ⟨skipped, run, rfl, hrun⟩⟩
      · rintro ⟨front, rest, rfl, hfront⟩
        obtain ⟨skipped, run, rfl, hrun⟩ := matchesPattern_percent.1 hfront
        exact ⟨skipped, run ++ rest, List.append_assoc .., ih.2 ⟨run, rest, rfl, hrun⟩⟩
    · cases text with
      | nil =>
        rw [matchesPattern_cons_nil hp]
        simp only [Bool.false_eq_true, false_iff]
        rintro ⟨run, rest, htext, hrun⟩
        obtain ⟨rfl, -⟩ := List.append_eq_nil_iff.1 htext.symm
        rw [matchesPattern_cons_nil hp] at hrun
        cases hrun
      | cons c text =>
        rw [matchesPattern_cons hp, ih]
        constructor
        · rintro ⟨hc, run, rest, rfl, hrun⟩
          exact ⟨c :: run, rest, rfl, (matchesPattern_cons hp).2 ⟨hc, hrun⟩⟩
        · rintro ⟨run, rest, htext, hrun⟩
          cases run with
          | nil =>
            rw [matchesPattern_cons_nil hp] at hrun
            cases hrun
          | cons d run =>
            obtain ⟨rfl, rfl⟩ := List.cons.inj htext
            obtain ⟨hc, hrun⟩ := (matchesPattern_cons hp).1 hrun
            exact ⟨hc, run, rest, rfl, hrun⟩

/-! ## Texts up to a NUL -/

theorem untilNul_append {s t : String} (h : NulFree s) :
    untilNul (s ++ t) = s.toList ++ untilNul t := by
  rw [untilNul, String.toList_append, List.takeWhile_append_of_pos, untilNul]
  intro c hc
  simp [h c hc]

theorem untilNul_append_of_nul {s : String} (h : ¬NulFree s) (t : String) :
    untilNul (s ++ t) = untilNul s := by
  have hnul : (s.toList.takeWhile fun c => c.toNat != 0).length ≠ s.toList.length := by
    intro hlength
    refine h fun c hc => ?_
    have hall := List.takeWhile_eq_self_iff.1 ((List.takeWhile_prefix _).eq_of_length hlength)
    simpa using hall c hc
  rw [untilNul, String.toList_append, List.takeWhile_append, if_neg hnul, untilNul]

theorem length_untilNul_lt {s : String} (h : ¬NulFree s) :
    (untilNul s).length < s.toList.length := by
  have hle : (untilNul s).length ≤ s.toList.length := (List.takeWhile_prefix _).length_le
  refine lt_of_le_of_ne hle fun hlength => h fun c hc => ?_
  have hall := List.takeWhile_eq_self_iff.1 ((List.takeWhile_prefix _).eq_of_length hlength)
  simpa using hall c hc

end TableExplorer.Store

namespace TableExplorer.RequestLog

open Store

variable {p path : String}

/-- A beginning is matched as a pattern with a percent sign behind it. -/
theorem startMatches_eq (p path : String) :
    startMatches (some p) path = matchesPattern (untilNul (p ++ "%")) (untilNul path) := by
  by_cases hp : p = ""
  · subst hp
    rw [show untilNul ("" ++ "%") = ['%'] by decide +kernel, matchesPattern_end]
    rfl
  · have hempty : p.isEmpty = false := by simpa using hp
    simp only [startMatches, hempty, Bool.false_or, Cell.isLike, Cell.patternText?]
    cases matchesPattern (untilNul (p ++ "%")) (untilNul path) <;> rfl

theorem startMatches_of_nulFree (hp : NulFree p) (path : String) :
    startMatches (some p) path = matchesPattern (p.toList ++ ['%']) (untilNul path) := by
  rw [startMatches_eq, untilNul_append hp]
  rfl

/-- **No path that starts with the text is missed**, whatever the text holds. -/
theorem startMatches_of_prefix (h : p.toList <+: path.toList) :
    startMatches (some p) path = true := by
  obtain ⟨rest, hrest⟩ := h
  have hpath : path = p ++ String.ofList rest := by
    rw [← String.toList_inj, String.toList_append, String.toList_ofList, hrest]
  subst hpath
  by_cases hp : NulFree p
  · rw [startMatches_of_nulFree hp, untilNul_append hp]
    exact matchesPattern_append_self _ (matchesPattern_end _)
  · have hself := matchesPattern_append_self (untilNul p) (matchesPattern_nil.2 rfl)
    rw [startMatches_eq, untilNul_append_of_nul hp, untilNul_append_of_nul hp]
    simpa using hself

theorem nulFree_iff : NulFree p ↔ '\x00' ∉ p.toList := by
  constructor
  · exact fun h hnul => h _ hnul rfl
  · rintro h c hc hzero
    rw [Char.toNat_inj.1 (show c.toNat = ('\x00').toNat from hzero)] at hc
    exact h hc

/-- A path is listed if the text, taken as a pattern, takes a front of it. -/
theorem startMatches_iff_front (hp : NulFree p) :
    startMatches (some p) path = true ↔ ∃ run rest, path.toList = run ++ rest ∧
      '\x00' ∉ run ∧ matchesPattern p.toList run = true := by
  have hpred : ∀ c : Char, (c.toNat != 0) = true ↔ c ≠ '\x00' := by
    intro c
    rw [bne_iff_ne, ne_eq, ne_eq, ← Char.toNat_inj]
    rfl
  rw [startMatches_of_nulFree hp, matchesPattern_append_percent]
  constructor
  · rintro ⟨run, rest, hfront, hrun⟩
    have hpath := List.takeWhile_append_dropWhile (p := fun c : Char => c.toNat != 0)
      (l := path.toList)
    have hnul : '\x00' ∉ untilNul path := fun hnul =>
      (hpred _).1 (List.mem_takeWhile_imp (p := fun c : Char => c.toNat != 0) hnul) rfl
    rw [hfront, List.mem_append, not_or] at hnul
    rw [untilNul] at hfront
    rw [hfront, List.append_assoc] at hpath
    exact ⟨run, _, hpath.symm, hnul.1, hrun⟩
  · rintro ⟨run, rest, hpath, hnul, hrun⟩
    refine ⟨run, rest.takeWhile fun c => c.toNat != 0, ?_, hrun⟩
    rw [untilNul, hpath, List.takeWhile_append_of_pos]
    rintro c hc
    rw [hpred]
    rintro rfl
    exact hnul hc

/-! ## Letters -/

theorem asciiLower_of_not_isAlpha {c : Char} (h : c.isAlpha = false) : Text.asciiLower c = c := by
  have hupper : ¬('A' ≤ c ∧ c ≤ 'Z') := of_decide_eq_false (Bool.or_eq_false_iff.1 h).1
  rw [Text.asciiLower, if_neg hupper]

/-- A character that is no letter is the lower case of itself only. -/
theorem eq_of_asciiLower_eq {c d : Char} (hc : c.isAlpha = false)
    (h : Text.asciiLower d = Text.asciiLower c) : d = c := by
  have hletter : ∀ n < 91, 65 ≤ n → (Char.ofNat (n + 32)).isAlpha = true := by decide
  rw [asciiLower_of_not_isAlpha hc] at h
  unfold Text.asciiLower at h
  split at h
  · next hd =>
    have hlow : 65 ≤ d.toNat := hd.1
    have hhigh : d.toNat ≤ 90 := hd.2
    have halpha := hletter d.toNat (by omega) hlow
    rw [h, hc] at halpha
    cases halpha
  · exact h

/-- A letter in the other case. -/
def otherCase (c : Char) : Char :=
  if 'A' ≤ c ∧ c ≤ 'Z' then Text.asciiLower c else Text.asciiUpper c

theorem otherCase_of_isAlpha {c : Char} (h : c.isAlpha = true) :
    otherCase c ≠ c ∧ Text.asciiLower (otherCase c) = Text.asciiLower c := by
  have hletters : ∀ n < 128, (Char.ofNat n).isAlpha = true →
      otherCase (Char.ofNat n) ≠ Char.ofNat n ∧
        Text.asciiLower (otherCase (Char.ofNat n)) = Text.asciiLower (Char.ofNat n) := by
    decide +kernel
  have hsmall : c.toNat < 128 := by
    rcases Bool.or_eq_true_iff.1 h with h | h
    · have hupper : 'A' ≤ c ∧ c ≤ 'Z' := of_decide_eq_true h
      exact Nat.lt_of_le_of_lt (UInt32.le_iff_toNat_le.1 hupper.2) (by decide)
    · have hlower : c ≤ 'z' := of_decide_eq_true (Bool.and_eq_true_iff.1 h).2
      exact Nat.lt_of_le_of_lt (UInt32.le_iff_toNat_le.1 hlower) (by decide)
  have hc := hletters c.toNat hsmall
  rw [Char.ofNat_toNat] at hc
  exact hc h

/-! ## Exact beginnings -/

/-- Without the two signs, a path is listed if it starts with the text but for case. -/
theorem startMatches_iff_lower (hp : NulFree p) (hpercent : '%' ∉ p.toList)
    (hunderscore : '_' ∉ p.toList) :
    startMatches (some p) path = true ↔
      p.toList.map Text.asciiLower <+: path.toList.map Text.asciiLower := by
  have hrun : ∀ run, matchesPattern p.toList run = true ↔
      run.map Text.asciiLower = p.toList.map Text.asciiLower := by
    intro run
    rw [← List.append_nil p.toList, matchesPattern_append hpercent hunderscore, List.append_nil]
    constructor
    · rintro ⟨run, rest, rfl, hsame, hrest⟩
      rw [matchesPattern_nil.1 hrest, List.append_nil, hsame]
    · intro hsame
      exact ⟨run, [], (List.append_nil run).symm, hsame, matchesPattern_nil.2 rfl⟩
  rw [startMatches_iff_front hp]
  constructor
  · rintro ⟨run, rest, hpath, -, hmatch⟩
    rw [hpath, List.map_append, (hrun run).1 hmatch]
    exact List.prefix_append _ _
  · rintro ⟨rest, hpath⟩
    obtain ⟨run, rest, hpath, hsame, -⟩ := List.map_eq_append_iff.1 hpath.symm
    refine ⟨run, rest, hpath, ?_, (hrun run).2 hsame⟩
    intro hnul
    have hmem := List.mem_map_of_mem (f := Text.asciiLower) hnul
    rw [hsame, List.mem_map] at hmem
    obtain ⟨c, hc, hlower⟩ := hmem
    have hzero := eq_of_asciiLower_eq (d := c) (c := '\x00') (by decide) (by rw [hlower])
    exact nulFree_iff.1 hp (hzero ▸ hc)

/-- A character that a pattern takes for itself. -/
def IsPlain (c : Char) : Prop := c ≠ '%' ∧ c ≠ '_' ∧ c ≠ '\x00' ∧ c.isAlpha = false

/-- A plain text is told by its lower case. -/
theorem eq_of_map_asciiLower_eq {cs ds : List Char} (hcs : ∀ c ∈ cs, IsPlain c)
    (h : ds.map Text.asciiLower = cs.map Text.asciiLower) : ds = cs := by
  induction cs generalizing ds with
  | nil => simpa using h
  | cons c cs ih =>
    rw [List.forall_mem_cons] at hcs
    cases ds with
    | nil => simp at h
    | cons d ds =>
      obtain ⟨hc, hrest⟩ := List.cons.inj h
      rw [eq_of_asciiLower_eq hcs.1.2.2.2 hc, ih hcs.2 hrest]

/-- A character that is not plain takes something else as well: nothing, another character, or
itself in the other case. -/
theorem exists_other {c : Char} (hc : ¬IsPlain c) (hnul : c ≠ '\x00') :
    ∃ run : List Char, run.length ≤ 1 ∧ run ≠ [c] ∧ '\x00' ∉ run ∧ ∀ pattern text,
      matchesPattern pattern text = true → matchesPattern (c :: pattern) (run ++ text) = true := by
  by_cases hpercent : c = '%'
  · subst hpercent
    exact ⟨[], by simp, by simp, by simp, fun pattern text h =>
      matchesPattern_percent.2 ⟨[], text, rfl, h⟩⟩
  by_cases hunderscore : c = '_'
  · subst hunderscore
    exact ⟨['x'], by simp, by simp, by simp, fun pattern text h =>
      (matchesPattern_cons (by decide)).2 ⟨.inl rfl, h⟩⟩
  · have halpha : c.isAlpha = true := by
      by_contra halpha
      exact hc ⟨hpercent, hunderscore, hnul, by simpa using halpha⟩
    obtain ⟨hne, hlower⟩ := otherCase_of_isAlpha halpha
    refine ⟨[otherCase c], by simp, by simpa using hne, ?_, fun pattern text h =>
      (matchesPattern_cons hpercent).2 ⟨.inr hlower.symm, h⟩⟩
    rw [List.mem_singleton]
    intro hzero
    rw [← hzero] at hlower
    exact hnul (eq_of_asciiLower_eq (by decide) hlower.symm)

/-- **The beginning is exact only for plain texts.** -/
theorem startMatches_iff_prefix_iff (p : String) :
    (∀ path : String, startMatches (some p) path = true ↔ p.toList <+: path.toList) ↔
      ∀ c ∈ p.toList, IsPlain c := by
  constructor
  · intro hexact
    have hp : NulFree p := by
      by_contra hp
      -- the text up to the NUL is listed, but it is too short
      have hself := matchesPattern_append_self (untilNul p) (matchesPattern_nil.2 rfl)
      have hagain : untilNul (String.ofList (untilNul p)) = untilNul p := by
        rw [untilNul, String.toList_ofList, List.takeWhile_eq_self_iff]
        exact fun c hc => List.mem_takeWhile_imp (p := fun c : Char => c.toNat != 0) hc
      have hlisted : startMatches (some p) (String.ofList (untilNul p)) = true := by
        rw [startMatches_eq, untilNul_append_of_nul hp, hagain]
        simpa using hself
      have hlength := ((hexact _).1 hlisted).length_le
      rw [String.toList_ofList] at hlength
      exact absurd (length_untilNul_lt hp) (by omega)
    by_contra hplain
    simp only [not_forall] at hplain
    obtain ⟨c, hc, hplain⟩ := hplain
    have hnul : c ≠ '\x00' := by
      rintro rfl
      exact nulFree_iff.1 hp hc
    obtain ⟨front, back, htext⟩ := List.append_of_mem hc
    obtain ⟨run, hlength, hne, hrun, hother⟩ := exists_other hplain hnul
    have hself := matchesPattern_append_self back (matchesPattern_nil.2 rfl)
    have hback := hother back back (by simpa using hself)
    have hlisted : startMatches (some p) (String.ofList (front ++ (run ++ back))) = true := by
      refine (startMatches_iff_front hp).2 ⟨front ++ (run ++ back), [], by simp, ?_, ?_⟩
      · rw [nulFree_iff, htext] at hp
        simp only [List.mem_append, List.mem_cons, not_or] at hp ⊢
        exact ⟨hp.1, hrun, hp.2.2⟩
      · rw [htext]
        exact matchesPattern_append_self front hback
    have hprefix := (hexact _).1 hlisted
    rw [htext, String.toList_ofList, List.prefix_append_right_inj] at hprefix
    have hsame := hprefix.eq_of_length_le (by simp; omega)
    exact hne (List.append_cancel_right (show run ++ back = [c] ++ back from hsame.symm))
  · intro hplain path
    have hp : NulFree p := nulFree_iff.2 fun h => (hplain _ h).2.2.1 rfl
    rw [startMatches_iff_lower hp (fun h => (hplain _ h).1 rfl) (fun h => (hplain _ h).2.1 rfl)]
    constructor
    · rintro ⟨rest, hpath⟩
      obtain ⟨run, rest, hpath, hsame, -⟩ := List.map_eq_append_iff.1 hpath.symm
      rw [hpath, eq_of_map_asciiLower_eq hplain hsame]
      exact List.prefix_append _ _
    · exact fun h => h.map _

/-! ## Selections -/

/-- A selection by time and status only. -/
def Selection.anyPath (s : Selection) : Selection := { s with pathStart := none }

theorem Selection.includes_eq {s : Selection} (h : s.pathStart = some p) (now : Int) (e : Entry) :
    s.includes now e = (startMatches (some p) e.path && s.anyPath.includes now e) := by
  simp only [Selection.includes, Selection.anyPath, h, startMatches, Bool.and_true]
  rw [Bool.and_right_comm, Bool.and_comm]
  rfl

theorem Selection.count_eq {s : Selection} (h : s.pathStart = some p) (now : Int)
    (entries : List Entry) : s.count now entries =
      (entries.filter (s.anyPath.includes now)).countP fun e => startMatches (some p) e.path := by
  rw [Selection.count, List.countP_filter]
  exact List.countP_congr fun e _ => by rw [s.includes_eq h]

theorem Selection.of_mem_page {s : Selection} (h : s.pathStart = some p) {now : Int}
    {offset limit : Nat} {entries : List Entry} {e : Entry}
    (he : e ∈ s.page now offset limit entries) :
    e ∈ entries.filter (s.anyPath.includes now) ∧ startMatches (some p) e.path = true := by
  have hlist := List.mem_of_mem_drop (List.mem_of_mem_take he)
  rw [Selection.mem_list, s.includes_eq h, Bool.and_eq_true] at hlist
  exact ⟨List.mem_filter.2 ⟨hlist.1, hlist.2.2⟩, hlist.2.1⟩

end TableExplorer.RequestLog

namespace TableExplorer.Api

open RequestLog

/-- **What a listing by the beginning of the path shows.** It shows and counts the entries of its
time and status whose path matches the given text with a percent sign behind it, unless that is too
long to be matched with the entries of its time. None whose path starts with the text is missed. A
text without NUL takes the paths with a front that it takes as a pattern; without the two signs,
these are the paths that start with it but for case. They are those that start with it exactly if it
holds no sign, no NUL and no ASCII letter. -/
theorem listed_by_start (f : Framework) (m : Moment) {r : HttpRequest} {s : State} {l : Listing}
    {entries : List Entry} {p : String} (hasks : AsksListing r l) (hstart : l.pathStart = some p)
    (hlog : s.logs.entries = some entries) (hfits : Store.fits l.offset = true) :
    let window := entries.filter (l.selection.anyPath.includes m.time)
    let tooLong := Store.maxPatternSize < (p ++ "%").utf8ByteSize ∧
      ∃ e ∈ entries, l.selection.isRecent m.time e = true
    (¬tooLong → ∃ page : List Entry,
      (handle f m r s).1.ShowsEntries (page.map entryDocument)
        (window.countP fun e => startMatches (some p) e.path) ∧
      ∀ e ∈ page, e ∈ window ∧ startMatches (some p) e.path = true) ∧
    (tooLong → (handle f m r s).1 = patternTooComplex) ∧
    (∀ path : String, p.toList <+: path.toList → startMatches (some p) path = true) ∧
    (Store.NulFree p → ∀ path : String, startMatches (some p) path = true ↔
      ∃ run rest, path.toList = run ++ rest ∧ '\x00' ∉ run ∧
        Store.matchesPattern p.toList run = true) ∧
    (Store.NulFree p → '%' ∉ p.toList → '_' ∉ p.toList → ∀ path : String,
      startMatches (some p) path = true ↔
        p.toList.map Text.asciiLower <+: path.toList.map Text.asciiLower) ∧
    ((∀ path : String, startMatches (some p) path = true ↔ p.toList <+: path.toList) ↔
      ∀ c ∈ p.toList, IsPlain c) := by
  intro window tooLong
  have hrefused : l.selection.isRefused m.time entries = true ↔ tooLong := by
    rw [Selection.isRefused_iff]
    simp [Listing.selection, hstart, tooLong]
  refine ⟨fun hshort => ?_, fun hlong => handle_refused hasks hlog (hrefused.2 hlong) hfits,
    fun path => startMatches_of_prefix, fun hp path => startMatches_iff_front hp,
    fun hp hpercent hunderscore path => startMatches_iff_lower hp hpercent hunderscore,
    startMatches_iff_prefix_iff p⟩
  have hmatches : l.selection.isRefused m.time entries = false := by
    rw [← Bool.not_eq_true, hrefused]
    exact hshort
  have hshows := handle_listing (f := f) (m := m) hasks hlog hmatches hfits
  rw [Selection.count_eq hstart] at hshows
  exact ⟨_, hshows, fun e he => Selection.of_mem_page hstart he⟩

/-- A listing by a text with an underscore, of a table that is one of three. -/
theorem listed_by_start_underscore :
    let p := "/api/explorer/tables/tipo_lead"
    let l : Listing :=
      { limit := 50, offset := 0, hours := 24, pathStart := some p, errorsOnly := false }
    let entries : List Entry :=
      [{ id := 1, time := 7, method := "GET", path := p ++ "/columns", status := 200 },
        { id := 2, time := 5, method := "GET", path := "/api/explorer/tables/tipoXlead/columns",
          status := 200 },
        { id := 3, time := 2, method := "GET", path := "/API/explorer/tables/tipo_lead/columns",
          status := 404 }]
    let m : Moment := { clock := 0, time := 10, today := "2024-01-01" }
    let s : State := { session := { source := {}, cache := {} }, logs := { entries } }
    AsksListing l.request l ∧ l.pathStart = some p ∧ Store.fits l.offset = true ∧
    (∃ page : List Entry,
      (handle .plain m l.request s).1.ShowsEntries (page.map entryDocument) 3) ∧
    entries.countP (fun e => decide (p.toList <+: e.path.toList)) = 1 := by
  intro p l entries m s
  have hbounds : l.InBounds := by constructor <;> decide
  have hasks : AsksListing l.request l := asksListing_request hbounds (by decide)
  obtain ⟨hlisted, -, hprefix, hfront, -⟩ :=
    listed_by_start (s := s) .plain m hasks rfl rfl (by decide)
  have hshort : ¬Store.maxPatternSize < (p ++ "%").utf8ByteSize := by decide
  obtain ⟨page, hshows, -⟩ := hlisted fun hlong => hshort hlong.1
  refine ⟨hasks, rfl, by decide, ⟨page, ?_⟩, by decide +kernel⟩
  have hp : Store.NulFree p := by decide +kernel
  have h1 : startMatches (some p) (p ++ "/columns") = true := hprefix _ (by decide +kernel)
  have hmatch : ∀ (run : List Char) (c : Char), run.map Text.asciiLower =
      "/api/explorer/tables/tipo".toList.map Text.asciiLower →
      Store.matchesPattern p.toList (run ++ c :: "lead".toList) = true := by
    intro run c hrun
    have hlead : Store.matchesPattern "lead".toList "lead".toList = true :=
      Store.matchesPattern_append_self "lead".toList (Store.matchesPattern_nil.2 rfl)
    have htext : p.toList = "/api/explorer/tables/tipo".toList ++ '_' :: "lead".toList := by
      decide +kernel
    rw [htext]
    exact (Store.matchesPattern_append (by decide +kernel) (by decide +kernel)).2
      ⟨run, _, rfl, hrun, (Store.matchesPattern_cons (by decide)).2 ⟨.inl rfl, hlead⟩⟩
  have h2 : startMatches (some p) "/api/explorer/tables/tipoXlead/columns" = true := by
    refine (hfront hp _).2 ⟨"/api/explorer/tables/tipoXlead".toList, "/columns".toList, ?_⟩
    exact ⟨by decide +kernel, by decide +kernel, hmatch "/api/explorer/tables/tipo".toList 'X' rfl⟩
  have h3 : startMatches (some p) "/API/explorer/tables/tipo_lead/columns" = true := by
    refine (hfront hp _).2 ⟨"/API/explorer/tables/tipo_lead".toList, "/columns".toList, ?_⟩
    exact ⟨by decide +kernel, by decide +kernel,
      hmatch "/API/explorer/tables/tipo".toList '_' (by decide +kernel)⟩
  have hcount : (entries.filter (l.selection.anyPath.includes m.time)).countP
      (fun e => startMatches (some p) e.path) = 3 := by
    have hwindow : entries.filter (l.selection.anyPath.includes m.time) = entries := by
      decide +kernel
    rw [hwindow]
    simp [entries, h1, h2, h3]
  rwa [hcount] at hshows

end TableExplorer.Api
