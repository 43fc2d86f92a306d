import TableExplorer.Api.App
import TableExplorer.Proofs.Api.Complaints
import TableExplorer.Proofs.Dict
import TableExplorer.Proofs.QueryState.Normal
import TableExplorer.Proofs.Text.Utf

/-!
# Requests for listings

A listing of the log is asked for by a query of names and values. Any text can be sent in it, since
every octet can be written as a percent escape. The numbers of a listing have bounds, and a listing
within the bounds can be asked for, whatever beginning of a path it selects by.

Main results: `asksListing_request` and `asksListing_pages`.
-/

namespace TableExplorer.Api

/-! ## Escaped texts -/

def percentEscape (b : UInt8) : List Char :=
  ['%', Nat.digitChar (b.toNat / 16), Nat.digitChar (b.toNat % 16)]

/-- A text with every octet escaped. -/
def escaped (s : String) : List Char := s.toUTF8.toList.flatMap percentEscape

/-- An octet that is a hexadecimal digit. -/
def digitOctet (x : Nat) : UInt8 := UInt8.ofNat (Nat.digitChar x).toNat

theorem encode_percentEscape (b : UInt8) :
    (percentEscape b).flatMap String.utf8EncodeChar =
      [0x25, digitOctet (b.toNat / 16), digitOctet (b.toNat % 16)] := by
  have hdigit : ∀ x < 16, String.utf8EncodeChar (Nat.digitChar x) = [digitOctet x] := by decide
  have hpercent : String.utf8EncodeChar '%' = [0x25] := by decide
  have hb := b.toNat_lt
  simp only [percentEscape, List.flatMap_cons, List.flatMap_nil, hpercent,
    hdigit (b.toNat / 16) (by omega), hdigit (b.toNat % 16) (by omega)]
  rfl

theorem unescapeOctets_escape (b : UInt8) (rest : List UInt8) :
    unescapeOctets (0x25 :: digitOctet (b.toNat / 16) :: digitOctet (b.toNat % 16) :: rest) =
      b :: unescapeOctets rest := by
  have hdigit : ∀ x < 16, Json.hexDigit? (Char.ofNat (digitOctet x).toNat) = some x := by decide
  have hb := b.toNat_lt
  rw [unescapeOctets]
  simp only [hdigit (b.toNat / 16) (by omega), hdigit (b.toNat % 16) (by omega),
    Nat.div_add_mod', UInt8.ofNat_toNat]

theorem unescapeOctets_escapes (octets : List UInt8) :
    unescapeOctets ((octets.flatMap percentEscape).flatMap String.utf8EncodeChar) = octets := by
  induction octets with
  | nil => rfl
  | cons b octets ih =>
    rw [List.flatMap_cons, List.flatMap_append, encode_percentEscape]
    simp only [List.cons_append, List.nil_append]
    rw [unescapeOctets_escape, ih]

/-- A sign that has a meaning in a query is no part of an escaped text. -/
theorem not_mem_escaped {c : Char} (hpercent : c ≠ '%') (hdigit : ∀ x < 16, Nat.digitChar x ≠ c)
    (s : String) : c ∉ escaped s := by
  intro hc
  obtain ⟨b, -, hc⟩ := List.mem_flatMap.1 hc
  have hb := b.toNat_lt
  simp only [percentEscape, List.mem_cons, List.not_mem_nil, or_false] at hc
  rcases hc with hc | hc | hc
  · exact hpercent hc
  · exact hdigit _ (by omega) hc.symm
  · exact hdigit _ (by omega) hc.symm

/-- **Every text is read back** from a query. -/
theorem unescapeQuery_escaped (s : String) : unescapeQuery (escaped s) = s := by
  have hplus : (escaped s).map (fun c => if c = '+' then ' ' else c) = escaped s := by
    rw [List.map_congr_left (g := id), List.map_id]
    intro c hc
    have hne : c ≠ '+' := by
      rintro rfl
      exact not_mem_escaped (by decide) (by decide) s hc
    rw [if_neg hne]
    rfl
  rw [unescapeQuery, hplus, unescape, Text.toList_toUTF8, String.toList_ofList, escaped,
    unescapeOctets_escapes, Text.lossyUtf8_toUTF8]

/-! ## Queries -/

def writtenParam (p : String × String) : List Char := escaped p.1 ++ '=' :: escaped p.2

def writtenParams (params : List (String × String)) : List Char :=
  Text.joinWith '&' (params.map writtenParam)

theorem not_mem_writtenParam {c : Char} (hequals : c ≠ '=') (hpercent : c ≠ '%')
    (hdigit : ∀ x < 16, Nat.digitChar x ≠ c) (p : String × String) : c ∉ writtenParam p := by
  rw [writtenParam, List.mem_append, List.mem_cons]
  rintro (hc | hc | hc)
  · exact not_mem_escaped hpercent hdigit _ hc
  · exact hequals hc
  · exact not_mem_escaped hpercent hdigit _ hc

theorem unescapeQuery_writtenParam (p : String × String) :
    unescapeQuery ((writtenParam p).takeWhile (· != '=')) = p.1 ∧
      unescapeQuery (((writtenParam p).dropWhile (· != '=')).drop 1) = p.2 := by
  have hplain : ∀ c ∈ escaped p.1, (c != '=') = true := by
    intro c hc
    rw [bne_iff_ne]
    rintro rfl
    exact not_mem_escaped (by decide) (by decide) _ hc
  rw [writtenParam, List.takeWhile_append_of_pos hplain, List.dropWhile_append_of_pos hplain]
  simp [unescapeQuery_escaped]

/-- **Every list of parameters can be sent.** -/
theorem params_written {t : Target} {params : List (String × String)}
    (ht : t.query.toList = writtenParams params) : t.params = Dict.ofList params := by
  have hsplit : (Text.splitAtChar '&' (writtenParams params)).filter (fun part => !part.isEmpty) =
      params.map writtenParam := by
    cases params with
    | nil => rfl
    | cons p params =>
      rw [writtenParams, Text.splitAtChar_joinWith (by simp), List.filter_eq_self]
      · intro part hpart
        obtain ⟨p, -, rfl⟩ := List.mem_map.1 hpart
        simp [writtenParam]
      · intro part hpart hmem
        obtain ⟨p, -, rfl⟩ := List.mem_map.1 hpart
        exact not_mem_writtenParam (by decide) (by decide) (by decide) p hmem
  rw [Target.params, ht, hsplit, List.map_map]
  congr 1
  rw [List.map_congr_left (g := id), List.map_id]
  intro p _
  exact Prod.ext (unescapeQuery_writtenParam p).1 (unescapeQuery_writtenParam p).2

/-! ## Integers in a query -/

theorem asciiDigit?_of_isDigit {c : Char} (h : c.isDigit = true) :
    Text.asciiDigit? c = some (c.toNat - 48) := by
  rw [Char.isDigit, Bool.and_eq_true] at h
  have hlow := of_decide_eq_true h.1
  have hhigh := of_decide_eq_true h.2
  exact if_pos ⟨hlow, hhigh⟩

/-- Digits without underscores are read one by one. -/
theorem groupedDigits?_of_isDigit {cs : List Char} (hne : cs ≠ [])
    (h : ∀ c ∈ cs, c.isDigit = true) :
    Text.groupedDigits? Text.asciiDigit? cs = some (cs.map fun c => c.toNat - 48) := by
  induction cs with
  | nil => exact absurd rfl hne
  | cons c cs ih =>
    rw [List.forall_mem_cons] at h
    cases cs with
    | nil => simp [Text.groupedDigits?, asciiDigit?_of_isDigit h.1]
    | cons d cs =>
      have hd : d ≠ '_' := by
        rintro rfl
        exact absurd (h.2 _ List.mem_cons_self) (by decide)
      rw [Text.groupedDigits?, ih (List.cons_ne_nil d cs) h.2, asciiDigit?_of_isDigit h.1]
      · rfl
      · exact fun hnil => List.cons_ne_nil d cs hnil
      · exact fun rest hrest => hd (List.cons.inj hrest).1

theorem ofDigits_map (cs : List Char) :
    Text.ofDigits (cs.map fun c => c.toNat - 48) = Nat.ofDigitChars 10 cs 0 := by
  rw [Text.ofDigits, Nat.ofDigitChars_eq_foldl, List.foldl_map]
  simp only [Nat.mul_comm]
  rfl

theorem trimBoth_of_forall {dropped : Char → Bool} {cs : List Char}
    (h : ∀ c ∈ cs, dropped c = false) : Text.trimBoth dropped cs = cs := by
  have hdrop : ∀ l : List Char, (∀ c ∈ l, dropped c = false) → l.dropWhile dropped = l := by
    intro l hl
    cases l with
    | nil => rfl
    | cons c l => rw [List.dropWhile_cons_of_neg (by simp [hl c List.mem_cons_self])]
  rw [Text.trimBoth, hdrop cs h, hdrop _ (fun c hc => h c (List.mem_reverse.1 hc)),
    List.reverse_reverse]

theorem splitSign_of_isDigit {cs : List Char} (h : ∀ c ∈ cs, c.isDigit = true) :
    Text.splitSign cs = (false, cs) := by
  unfold Text.splitSign
  split
  · exact absurd (h _ List.mem_cons_self) (by decide)
  · exact absurd (h _ List.mem_cons_self) (by decide)
  · rfl

/-- **Decimal notation is read back.** -/
theorem integerOfText_ofInt {n : Nat}
    (hlength : (Nat.toDigits 10 n).length ≤ Checked.maxIntegerText) :
    Checked.integerOfText (Text.ofInt n) = .ok (n : Int) := by
  have htext : (Text.ofInt n).toList = Nat.toDigits 10 n := by
    rw [Text.ofInt, if_neg (by omega), Int.natAbs_natCast, Nat.toList_repr]
  have hdigit : ∀ c ∈ Nat.toDigits 10 n, c.isDigit = true :=
    fun c hc => Nat.isDigit_of_mem_toDigits (by omega) (by omega) hc
  have hblank : ∀ c ∈ Nat.toDigits 10 n, Text.isWhiteSpace c = false := by
    intro c hc
    have hc := hdigit c hc
    rw [Char.isDigit, Bool.and_eq_true, decide_eq_true_eq, decide_eq_true_eq] at hc
    have hlow : 48 ≤ c.toNat := hc.1
    have hhigh : c.toNat ≤ 57 := hc.2
    simp only [Text.isWhiteSpace, Bool.or_eq_false_iff, Bool.and_eq_false_iff,
      decide_eq_false_iff_not, beq_eq_false_iff_ne]
    omega
  have hpoint : Checked.withoutZeroFraction (Nat.toDigits 10 n) = Nat.toDigits 10 n := by
    have hnone : (Nat.toDigits 10 n).dropWhile (· != '.') = [] := by
      rw [List.dropWhile_eq_nil_iff]
      intro c hc
      rw [bne_iff_ne]
      rintro rfl
      exact absurd (hdigit _ hc) (by decide)
    unfold Checked.withoutZeroFraction
    rw [hnone]
  rw [Checked.integerOfText, htext, trimBoth_of_forall hblank, if_neg (by omega)]
  simp only [splitSign_of_isDigit hdigit, hpoint,
    groupedDigits?_of_isDigit Nat.toDigits_ne_nil hdigit, ofDigits_map,
    Nat.ofDigitChars_ten_toDigits, Text.signed]
  rfl

theorem integerBetween_ofInt {low i : Int} {high : Option Int} (hnonneg : 0 ≤ i) (hlow : low ≤ i)
    (hhigh : ∀ h ∈ high, i ≤ h) (hfits : i ≤ Store.maxInteger) :
    Checked.integerBetween low high (.text (Text.ofInt i)) = .ok i := by
  obtain ⟨n, rfl⟩ := Int.eq_ofNat_of_zero_le hnonneg
  have hshort : (Nat.toDigits 10 n).length ≤ Checked.maxIntegerText := by
    have hmax : Store.maxInteger < 10 ^ 19 := by decide
    have hlength : (Nat.toDigits 10 n).length ≤ 19 :=
      (Nat.length_toDigits_le_iff (by omega) (by decide)).2 (by omega)
    exact hlength.trans (by decide)
  have hread : Checked.integer (.text (Text.ofInt n)) = .ok (n : Int) := by
    simp only [Checked.integer, integerOfText_ofInt hshort]
  rw [Checked.integerBetween, hread]
  cases high with
  | none => simp only [if_neg (Int.not_lt.2 hlow)]
  | some h => simp only [if_neg (Int.not_lt.2 (hhigh h rfl)), if_neg (Int.not_lt.2 hlow)]

/-! ## Bounds -/

theorem of_integerBetween {low : Int} {high : Option Int} {v : Value} {i : Int}
    (h : Checked.integerBetween low high v = .ok i) : low ≤ i ∧ ∀ bound ∈ high, i ≤ bound := by
  unfold Checked.integerBetween at h
  split at h
  · cases h
  · split at h
    · split at h
      · cases h
      · split at h
        · cases h
        · next hhigh hlow =>
          cases h
          exact ⟨Int.not_lt.1 hlow, by simpa using hhigh⟩
    · split at h
      · cases h
      · next hlow =>
        cases h
        exact ⟨Int.not_lt.1 hlow, by simp⟩

/-- A parameter that is read was taken by its reader, or is the one that stands for its absence. -/
theorem of_param {α : Type} {params : Dict String} {name : String} {absent a : α}
    {read : Value → Checked α} (h : param params name absent read = .ok a) :
    a = absent ∨ ∃ s, read (.text s) = .ok a := by
  unfold param at h
  split at h
  · cases h
    exact .inl rfl
  · next s _ => exact .inr ⟨s, Checked.within_eq_ok.1 (Checked.within_eq_ok.1 h)⟩

theorem of_param_between {params : Dict String} {name : String} {absent low i : Int}
    {high : Option Int} (habsent : low ≤ absent ∧ ∀ bound ∈ high, absent ≤ bound)
    (h : param params name absent (Checked.integerBetween low high) = .ok i) :
    low ≤ i ∧ ∀ bound ∈ high, i ≤ bound := by
  rcases of_param h with rfl | ⟨s, hread⟩
  · exact habsent
  · exact of_integerBetween hread

/-- Whether a listing keeps the bounds of its numbers. -/
structure Listing.InBounds (l : Listing) : Prop where
  one_le_limit : 1 ≤ l.limit
  limit_le : l.limit ≤ 1000
  offset_nonneg : 0 ≤ l.offset
  one_le_hours : 1 ≤ l.hours
  hours_le : l.hours ≤ 168

theorem Listing.inBounds_of_ofParams {params : Dict String} {l : Listing}
    (h : Listing.ofParams params = .ok l) : l.InBounds := by
  simp only [Listing.ofParams, both_eq_ok] at h
  obtain ⟨_, _, ⟨_, _, ⟨_, hours, ⟨_, offset, ⟨_, limit, hmk, hlimit, rfl⟩, hoffset, rfl⟩, hhours,
    rfl⟩, -, rfl⟩, -, rfl⟩ := h
  cases hmk
  have hlimit := of_param_between (by simp) hlimit
  have hoffset := of_param_between (by simp) hoffset
  have hhours := of_param_between (by simp) hhours
  exact ⟨hlimit.1, hlimit.2 _ rfl, hoffset.1, hhours.1, hhours.2 _ rfl⟩

/-! ## Requests -/

/-- A request asks for a listing. -/
structure AsksListing (r : HttpRequest) (l : Listing) : Prop where
  method : r.method = "GET"
  path : r.path = "/api/logs/"
  params : Listing.ofParams (Target.parse r.target).params = .ok l

theorem AsksListing.route {r : HttpRequest} {l : Listing} (h : AsksListing r l) :
    r.route = .endpoint .logs := by
  rw [HttpRequest.route, h.method, h.path]
  decide +kernel

def Listing.params (l : Listing) : List (String × String) :=
  [("limit", Text.ofInt l.limit), ("offset", Text.ofInt l.offset), ("hours", Text.ofInt l.hours),
    ("errors_only", if l.errorsOnly then "true" else "false")] ++
      (l.pathStart.map fun start => ("path_prefix", start)).toList

/-- The request that names every parameter of a listing. -/
def Listing.request (l : Listing) : HttpRequest :=
  { method := "GET", target := "/api/logs/?" ++ String.ofList (writtenParams l.params),
    origin := "" }

theorem mem_joinWith {sep c : Char} {parts : List (List Char)} (h : c ∈ Text.joinWith sep parts) :
    c = sep ∨ ∃ part ∈ parts, c ∈ part := by
  induction parts with
  | nil => simp [Text.joinWith] at h
  | cons part parts ih =>
    cases parts with
    | nil => exact .inr ⟨part, List.mem_cons_self, h⟩
    | cons next parts =>
      rw [Text.joinWith, List.mem_append, List.mem_cons] at h
      · rcases h with h | h | h
        · exact .inr ⟨part, List.mem_cons_self, h⟩
        · exact .inl h
        · rcases ih h with h | ⟨other, hother, h⟩
          · exact .inl h
          · exact .inr ⟨other, List.mem_cons_of_mem part hother, h⟩
      · exact List.cons_ne_nil next parts

theorem not_mem_writtenParams (params : List (String × String)) : '#' ∉ writtenParams params := by
  intro h
  rcases mem_joinWith h with h | ⟨part, hpart, h⟩
  · exact absurd h (by decide)
  · obtain ⟨p, -, rfl⟩ := List.mem_map.1 hpart
    exact not_mem_writtenParam (by decide) (by decide) (by decide) p h

theorem unescape_logs : unescape (unescape (cleanPath "/api/logs/".toList)) = "/api/logs/" := by
  have hclean : cleanPath "/api/logs/".toList = "/api/logs/" := by decide +kernel
  have hplain : unescape "/api/logs/" = "/api/logs/" := by
    rw [unescape, Text.toList_toUTF8]
    decide +kernel
  rw [hclean, hplain, hplain]

theorem parse_request (l : Listing) :
    Target.parse l.request.target =
      { path := "/api/logs/", query := String.ofList (writtenParams l.params) } := by
  have htarget : l.request.target.toList =
      "/api/logs/".toList ++ '?' :: writtenParams l.params := by
    simp [Listing.request]
  have hsign : ∀ c ∈ "/api/logs/".toList ++ '?' :: writtenParams l.params, (c != '#') = true := by
    intro c hc
    rw [bne_iff_ne]
    rintro rfl
    rw [List.mem_append, List.mem_cons] at hc
    rcases hc with hc | hc | hc
    · exact absurd hc (by decide)
    · exact absurd hc (by decide)
    · exact not_mem_writtenParams _ hc
  have hplain : ∀ c ∈ "/api/logs/".toList, (c != '?') = true := List.all_eq_true.1 rfl
  have hhost : withoutHost ("/api/logs/".toList ++ '?' :: writtenParams l.params) =
      "/api/logs/".toList ++ '?' :: writtenParams l.params := rfl
  simp only [Target.parse, htarget, List.takeWhile_eq_self_iff.2 hsign, hhost,
    List.takeWhile_append_of_pos hplain, List.dropWhile_append_of_pos hplain]
  rw [List.takeWhile_cons_of_neg (by simp), List.append_nil, unescape_logs]
  simp

theorem get?_params (l : Listing) (name : String) :
    Dict.get? (Dict.ofList l.params) name = Dict.get? l.params name := by
  rw [Dict.ofList_of_nodup]
  cases hstart : l.pathStart <;> simp [Listing.params, hstart, Dict.keys]

theorem param_eq_ok {α : Type} {params : Dict String} {name s : String} {absent a : α}
    {read : Value → Checked α} (hget : Dict.get? params name = some s)
    (hread : read (.text s) = .ok a) : param params name absent read = .ok a := by
  simp only [param, hget, hread]
  rfl

theorem readYesNo_word (b : Bool) :
    readYesNo (.text (if b then "true" else "false")) = .ok b := by
  have htrue : Text.asciiLowered "true" = "true" := by decide +kernel
  have hfalse : Text.asciiLowered "false" = "false" := by decide +kernel
  cases b with
  | true => simp [readYesNo, htrue, yesTexts]
  | false => simp [readYesNo, hfalse, yesTexts, noTexts]

/-- **Every listing within the bounds can be asked for.** -/
theorem asksListing_request {l : Listing} (h : l.InBounds) (hfits : Store.fits l.offset = true) :
    AsksListing l.request l := by
  obtain ⟨hlimit, hlimit', hoffset, hhours, hhours'⟩ := h
  have hmax : Store.maxInteger = 9223372036854775807 := rfl
  refine ⟨rfl, by rw [HttpRequest.path, parse_request], ?_⟩
  rw [parse_request, params_written (String.toList_ofList ..)]
  have h1 : param (Dict.ofList l.params) "limit" 50 (Checked.integerBetween 1 (some 1000)) =
      .ok l.limit :=
    param_eq_ok (get?_params l "limit")
      (integerBetween_ofInt (by omega) hlimit (by simpa) (by omega))
  have h2 : param (Dict.ofList l.params) "offset" 0 (Checked.integerBetween 0 none) =
      .ok l.offset :=
    param_eq_ok (get?_params l "offset") (integerBetween_ofInt hoffset hoffset (by simp)
      (of_decide_eq_true ((Bool.and_eq_true _ _).mp hfits).2))
  have h3 : param (Dict.ofList l.params) "hours" 24 (Checked.integerBetween 1 (some 168)) =
      .ok l.hours :=
    param_eq_ok (get?_params l "hours")
      (integerBetween_ofInt (by omega) hhours (by simpa) (by omega))
  have h4 : param (Dict.ofList l.params) "path_prefix" none
      (fun v => (Checked.text v).map some) = .ok l.pathStart := by
    rw [param, get?_params]
    have hget : Dict.get? l.params "path_prefix" = l.pathStart := by
      cases hstart : l.pathStart <;> simp [Listing.params, hstart, Dict.get?_cons]
    rw [hget]
    cases l.pathStart <;> rfl
  have h5 : param (Dict.ofList l.params) "errors_only" false readYesNo = .ok l.errorsOnly := by
    exact param_eq_ok (get?_params l "errors_only") (readYesNo_word l.errorsOnly)
  simp only [Listing.ofParams, h1, h2, h3, h4, h5]
  rfl

/-- All pages of a listing can be asked for, as far as the store can hold their offsets. -/
theorem asksListing_pages {l : Listing} (h : l.InBounds) (k : Nat)
    (hfits : Store.fits (k * l.limit) = true) :
    AsksListing (Listing.request { l with offset := k * l.limit })
      { l with offset := k * l.limit } := by
  have hlimit := h.one_le_limit
  have hoffset : 0 ≤ (k : Int) * l.limit := Int.mul_nonneg (by omega) (by omega)
  exact asksListing_request
    ⟨h.one_le_limit, h.limit_le, hoffset, h.one_le_hours, h.hours_le⟩ hfits

end TableExplorer.Api
