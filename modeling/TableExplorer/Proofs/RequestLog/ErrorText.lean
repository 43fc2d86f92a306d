import TableExplorer.Proofs.Dict
import TableExplorer.Proofs.Json.Reading
import TableExplorer.Proofs.Text.Utf
import TableExplorer.RequestLog.Table

/-!
# The error of an answer is the one in its body

The error that the log keeps is what stands under `error` at the top of the object in the body, or
under `detail` where nothing stands there. Of a name that is written more than once, the last value
counts. Nothing else in the body matters: not the order of the names, not the white space, not the
escapes, and not what stands under these names further inside.

A body that is no object, or no JSON at all, tells no error. The octets of a text in UTF-8 are read
as that text, unless they begin like another encoding: by a byte order mark, which is skipped, or by
a zero among the first two octets.

A body that is nested deeper than the reader goes makes the search fail, whatever it is.

Main result: `errorText_told`.
-/

namespace TableExplorer.Json

variable {d : Dialect} {cs : List Char} {fs : List (String × Value)} {name : String} {v : Value}

/-! ## Objects as they are written -/

/-- A whole text is an object, with these fields in this order. -/
def ObjectText (d : Dialect) (cs : List Char) (fs : List (String × Value)) : Prop :=
  ∃ inside behind, Blanks cs ('\x7b' :: inside) ∧ Blanks behind [] ∧
    (fs = [] ∧ Blanks inside ('\x7d' :: behind) ∨
      ∃ front, Blanks inside front ∧ Spells d front (.fields fs) behind)

/-- The objects as they are written are the documents of records, in which the last value of a name
counts. -/
theorem document_record_iff {fields : List (String × Value)} :
    Document d cs (.record fields) ↔ ∃ fs, ObjectText d cs fs ∧ fields = Dict.ofList fs := by
  constructor
  · rintro ⟨front, behind, hfront, hvalue, hbehind⟩
    cases hvalue with
    | number hcs => exact absurd rfl (hcs.no_record.2 fields)
    | word hw => exact absurd rfl ((word_ne_record hw).2 fields)
    | emptyRecord hblanks => exact ⟨[], ⟨_, behind, hfront, hbehind, .inl ⟨rfl, hblanks⟩⟩, rfl⟩
    | @record _ _ _ fs hblanks hfields =>
      exact ⟨fs, ⟨_, behind, hfront, hbehind, .inr ⟨_, hblanks, hfields⟩⟩, rfl⟩
  · rintro ⟨fs, ⟨inside, behind, hfront, hbehind, ⟨rfl, hblanks⟩ | ⟨front, hblanks, hfields⟩⟩, rfl⟩
    · exact ⟨_, behind, hfront, .emptyRecord hblanks, hbehind⟩
    · exact ⟨_, behind, hfront, .record hblanks hfields, hbehind⟩

/-- The last value that is written under a name. -/
def Says (fs : List (String × Value)) (name : String) (v : Value) : Prop :=
  ∃ front back, fs = front ++ (name, v) :: back ∧ ∀ f ∈ back, f.1 ≠ name

/-- Nothing is said under a name: it is absent, null or empty. -/
def Silent (fs : List (String × Value)) (name : String) : Prop :=
  (∀ f ∈ fs, f.1 ≠ name) ∨ Says fs name .null ∨ Says fs name (.text "") ∨
    Says fs name (.list []) ∨ Says fs name (.record [])

theorem get?_eq_none_of_absent (h : ∀ f ∈ fs, f.1 ≠ name) : Dict.get? fs name = none := by
  rw [Dict.get?_eq_none_iff]
  intro hname
  obtain ⟨f, hf, hsame⟩ := List.mem_map.1 hname
  exact h f hf hsame

theorem get?_said (h : Says fs name v) : Dict.get? (Dict.ofList fs) name = some v := by
  obtain ⟨front, back, rfl, hback⟩ := h
  have hnone : Dict.get? back.reverse name = none :=
    get?_eq_none_of_absent fun f hf => hback f (List.mem_reverse.1 hf)
  rw [Dict.get?_ofList, List.reverse_append, List.reverse_cons, Dict.get?_append, Dict.get?_append,
    hnone]
  simp [Dict.get?_cons]

theorem get?_of_absent (h : ∀ f ∈ fs, f.1 ≠ name) : Dict.get? (Dict.ofList fs) name = none := by
  rw [Dict.get?_ofList]
  exact get?_eq_none_of_absent fun f hf => h f (List.mem_reverse.1 hf)

theorem get?_of_silent (h : Silent fs name) :
    ∀ v ∈ Dict.get? (Dict.ofList fs) name, v.isTruthy = false := by
  rcases h with h | h | h | h | h
  · simp [get?_of_absent h]
  all_goals
    rw [get?_said h]
    rintro v ⟨⟩
    rfl

/-! ## Documents as octets -/

theorem Document.head_ne_mark (h : Document d cs v) : cs.head? ≠ some '\ufeff' := by
  obtain ⟨⟨c, hc, hstart⟩, -⟩ := h.front
  have hmark : isSpace '\ufeff' = false ∧ '\ufeff' ∉ valueStarts := by decide
  intro hhead
  rw [hhead] at hc
  cases hc
  rcases hstart with hspace | hstart
  · rw [hmark.1] at hspace
    cases hspace
  · exact hmark.2 hstart

/-- The octets of a document show that they are UTF-8. -/
theorem Document.decode {s : String} (h : Document d s.toList v) :
    Text.decodeDocument? s.toUTF8 = some s :=
  Text.decodeDocument?_toUTF8 h.head_ne_mark fun hzero =>
    Text.zero_not_mem_toUTF8 h.front.2 (List.mem_of_mem_take hzero)

/-! ## Nesting -/

theorem readWithin_of_le {limit : Nat} {s : String} (h : nesting s ≤ limit) :
    readWithin limit s = (read s).mapError .fault := by
  rw [readWithin, if_neg (Nat.not_lt.2 h)]

theorem readWithin_of_lt {limit : Nat} {s : String} (h : limit < nesting s) :
    readWithin limit s = .error .tooDeep := by
  rw [readWithin, if_pos h]

/-- Arrays within one another, an empty one inside, with a text behind them. -/
def bracketed (depth : Nat) (rest : List Char) : List Char :=
  List.replicate (depth + 1) '[' ++ List.replicate (depth + 1) ']' ++ rest

theorem bracketed_succ (depth : Nat) (rest : List Char) :
    bracketed (depth + 1) rest = '[' :: bracketed depth (']' :: rest) := by
  rw [bracketed, bracketed, List.replicate_succ, List.replicate_succ' (n := depth + 1)]
  simp only [List.append_assoc, List.cons_append, List.nil_append]

theorem exists_spells_bracketed (d : Dialect) (depth : Nat) (rest : List Char) :
    ∃ vs, Spells d (bracketed depth rest) (.value (.list vs)) rest := by
  induction depth generalizing rest with
  | zero => exact ⟨[], .emptyList .nil⟩
  | succ depth ih =>
    obtain ⟨vs, hvs⟩ := ih (']' :: rest)
    rw [bracketed_succ]
    exact ⟨[.list vs], .list .nil (.lastMember hvs .nil)⟩

theorem deepest_bracketed (depth openings : Nat) (rest : List Char) :
    openings + depth < deepest .outside openings (bracketed depth rest) := by
  induction depth generalizing openings rest with
  | zero =>
    rw [bracketed, List.replicate_one, List.replicate_one, List.cons_append, List.cons_append,
      deepest, if_neg (by decide), if_pos (by decide)]
    simp only [List.nil_append, List.cons_append]
    rw [deepest, if_neg (by decide), if_neg (by decide), if_pos (by decide)]
    omega
  | succ depth ih =>
    rw [bracketed_succ, deepest, if_neg (by decide), if_pos (by decide)]
    have hinside := ih (openings + 1) (']' :: rest)
    omega

theorem lt_nesting_bracketed (depth : Nat) :
    depth < nesting (String.ofList (bracketed depth [])) := by
  obtain ⟨vs, hvs⟩ := exists_spells_bracketed .faithful depth []
  have hdocument : Document .faithful (String.ofList (bracketed depth [])).toList (.list vs) := by
    rw [String.toList_ofList]
    exact ⟨_, [], .nil, hvs, .nil⟩
  have hdeep := deepest_bracketed depth 0 []
  rw [nesting, read_of_document (fun n hn => hn) hdocument, String.toList_ofList]
  exact (Nat.le_add_left depth 0).trans_lt hdeep

theorem size_bracketed (depth : Nat) :
    (String.ofList (bracketed depth [])).toUTF8.size = 2 * (depth + 1) := by
  show (String.ofList (bracketed depth [])).utf8ByteSize = _
  rw [Text.size_of_single]
  · simp only [bracketed, List.length_append, List.length_replicate, List.length_nil]
    omega
  · intro c hc
    simp only [bracketed, List.append_nil, List.mem_append] at hc
    rcases hc with hc | hc <;> rw [List.eq_of_mem_replicate hc] <;> rfl

end TableExplorer.Json

namespace TableExplorer.RequestLog

open Json

variable {limit : Nat} {s t : String} {fs : List (String × Value)} {v : Value}

theorem inspects {body : ByteArray} (hne : body.size ≠ 0) (hsize : body.size ≤ maxInspectedBody) :
    (decide (body.size = 0) || decide (maxInspectedBody < body.size)) = false := by
  simp only [hne, Nat.not_lt.2 hsize, decide_false, Bool.or_self]

theorem errorText_of_read {body : ByteArray} (hne : body.size ≠ 0)
    (hsize : body.size ≤ maxInspectedBody) (hdecode : Text.decodeDocument? body = some s)
    (hnesting : nesting s ≤ limit) {fields : List (String × Value)}
    (hread : read s = .ok (.record fields)) :
    errorText limit body = .ok (errorOfFields fields) := by
  simp only [errorText, inspects hne hsize, Bool.false_eq_true, if_false, hdecode,
    readWithin_of_le hnesting, hread, Except.mapError]

/-- The search of a text that is nested too deep fails. -/
theorem errorText_of_deep {body : ByteArray} (hne : body.size ≠ 0)
    (hsize : body.size ≤ maxInspectedBody) (hdecode : Text.decodeDocument? body = some s)
    (hnesting : limit < nesting s) : errorText limit body = .error .tooDeep := by
  simp only [errorText, inspects hne hsize, Bool.false_eq_true, if_false, hdecode,
    readWithin_of_lt hnesting]

theorem errorText_congr {body body' : ByteArray} (hne : body.size ≠ 0) (hne' : body'.size ≠ 0)
    (hsize : body.size ≤ maxInspectedBody) (hsize' : body'.size ≤ maxInspectedBody)
    (hsame : Text.decodeDocument? body = Text.decodeDocument? body') :
    errorText limit body = errorText limit body' := by
  simp only [errorText, inspects hne hsize, inspects hne' hsize', Bool.false_eq_true, if_false,
    hsame]

/-- A body tells no error if what its octets show is not read as an object. -/
theorem errorText_eq_none {body : ByteArray}
    (h : ∀ s, Text.decodeDocument? body = some s →
      nesting s ≤ limit ∧ ∀ fields, read s ≠ .ok (.record fields)) :
    errorText limit body = .ok none := by
  unfold errorText
  split
  · rfl
  · cases hdecode : Text.decodeDocument? body with
    | none => rfl
    | some s =>
      obtain ⟨hnesting, hread⟩ := h s hdecode
      dsimp only
      rw [readWithin_of_le hnesting]
      cases hs : read s with
      | error f => rfl
      | ok v =>
        cases v with
        | record fields => exact absurd hs (hread fields)
        | _ => rfl

/-- What an object tells, by what stands under the two names. -/
theorem errorOfFields_eq (fields : Dict Value) :
    errorOfFields fields =
      (((Dict.get? fields "error").filter Value.isTruthy).or
        ((Dict.get? fields "detail").filter Value.isTruthy)).map Value.display := by
  rw [errorOfFields, errorFields, List.findSome?_cons, List.findSome?_cons, List.findSome?_nil]
  cases Dict.get? fields "error" with
  | none =>
    cases Dict.get? fields "detail" with
    | none => rfl
    | some v => cases hv : v.isTruthy <;> simp [Option.filter, hv]
  | some v =>
    cases hv : v.isTruthy with
    | true => simp [Option.filter, hv]
    | false =>
      cases Dict.get? fields "detail" with
      | none => simp [Option.filter, hv]
      | some w => cases hw : w.isTruthy <;> simp [Option.filter, hv, hw]

theorem filter_of_silent {name : String} (h : Silent fs name) :
    (Dict.get? (Dict.ofList fs) name).filter Value.isTruthy = none := by
  have hfalse := get?_of_silent h
  cases hfound : Dict.get? (Dict.ofList fs) name with
  | none => rfl
  | some v => simp [hfalse v hfound]

theorem filter_said {name : String} (ht : t ≠ "") (h : Says fs name (.text t)) :
    (Dict.get? (Dict.ofList fs) name).filter Value.isTruthy = some (.text t) := by
  simp [get?_said h, Value.isTruthy, ht]

theorem size_toUTF8_ne_zero {d : Dialect} (h : Document d s.toList v) : s.toUTF8.size ≠ 0 := by
  intro hsize
  obtain ⟨⟨c, hc, -⟩, -⟩ := h.front
  have hs : s = "" := String.utf8ByteSize_eq_zero_iff.1 hsize
  subst hs
  cases hc

theorem errorText_of_object {d : Dialect} (hd : ∀ n, d.digits n → n ≤ maxIntegerDigits)
    (h : ObjectText d s.toList fs) (hsize : s.toUTF8.size ≤ maxInspectedBody)
    (hnesting : nesting s ≤ limit) :
    errorText limit s.toUTF8 = .ok (errorOfFields (Dict.ofList fs)) := by
  have hdocument : Document d s.toList (.record (Dict.ofList fs)) :=
    document_record_iff.2 ⟨fs, h, rfl⟩
  exact errorText_of_read (size_toUTF8_ne_zero hdocument) hsize hdocument.decode hnesting
    (read_of_document hd hdocument)

/-- A text is the document of a record in one dialect only if it is in any other. -/
theorem exists_record {d d' : Dialect} {cs : List Char} {fields : List (String × Value)}
    (h : Document d cs v) (hrecord : Document d' cs (.record fields)) :
    ∃ fs, v = .record fs := by
  obtain ⟨front, behind, hfront, hvalue, -⟩ := h
  obtain ⟨front', behind', hfront', hvalue', -⟩ := hrecord
  rw [← hvalue.head_record, ← skipSpace_of_begins hfront hvalue.begins,
    skipSpace_of_begins hfront' hvalue'.begins, hvalue'.head_record]
  exact ⟨fields, rfl⟩

/-- A byte order mark in front of a document changes nothing. -/
theorem errorText_mark {d : Dialect} (h : Document d s.toList v)
    (hsize : ("\ufeff" ++ s).toUTF8.size ≤ maxInspectedBody) :
    errorText limit ("\ufeff" ++ s).toUTF8 = errorText limit s.toUTF8 := by
  have hoctets : ("\ufeff" ++ s).toUTF8.size = "\ufeff".toUTF8.size + s.toUTF8.size := by
    rw [← ByteArray.size_append]
    exact congrArg ByteArray.size String.toByteArray_append
  have hne := size_toUTF8_ne_zero h
  refine errorText_congr (by omega) hne hsize (by omega) ?_
  rw [Text.decodeDocument?_mark, h.decode]

/-- A body tells no error if what its octets show is outside the grammar. -/
theorem errorText_outside {body : ByteArray}
    (h : ∀ s, Text.decodeDocument? body = some s →
      nesting s ≤ limit ∧ ¬∃ v, Document .standard s.toList v) :
    errorText limit body = .ok none := by
  refine errorText_eq_none fun s hdecode => ?_
  obtain ⟨hnesting, hno⟩ := h s hdecode
  exact ⟨hnesting, fun fields hread => hno ⟨_, (read_eq_ok_iff.1 hread).standard⟩⟩

/-- **The error of an answer is the one in its body.** The log keeps the text that an object in
UTF-8 says under `error`, or the one under `detail` if nothing is said there, and nothing if both
say nothing. It keeps nothing of a JSON text that is no object, of a text outside the grammar that
does not begin like another encoding, of any octets that are no JSON text in the encoding that they
show, and of a body that is too large. A byte order mark in front of a text is skipped. All this is
about texts that are nested within the limit of the reader. -/
theorem errorText_told (limit : Nat) :
    (∀ (s : String) (fs : List (String × Value)), ObjectText .faithful s.toList fs →
      s.toUTF8.size ≤ maxInspectedBody → nesting s ≤ limit →
      (∀ t, t ≠ "" → Says fs "error" (.text t) → errorText limit s.toUTF8 = .ok (some t)) ∧
      (∀ t, t ≠ "" → Silent fs "error" → Says fs "detail" (.text t) →
        errorText limit s.toUTF8 = .ok (some t)) ∧
      (Silent fs "error" → Silent fs "detail" → errorText limit s.toUTF8 = .ok none)) ∧
    (∀ (s : String) (v : Value), Document .standard s.toList v → (∀ fs, v ≠ .record fs) →
      nesting s ≤ limit → errorText limit s.toUTF8 = .ok none) ∧
    (∀ s : String, (¬∃ v, Document .standard s.toList v) → nesting s ≤ limit →
      s.toList.head? ≠ some '\ufeff' → 0 ∉ s.toUTF8.toList.take 2 →
      errorText limit s.toUTF8 = .ok none) ∧
    (∀ s : String, ("\ufeff" ++ s).toUTF8.size ≤ maxInspectedBody →
      ((∃ v, Document .standard s.toList v) →
        errorText limit ("\ufeff" ++ s).toUTF8 = errorText limit s.toUTF8) ∧
      ((¬∃ v, Document .standard s.toList v) → nesting s ≤ limit →
        errorText limit ("\ufeff" ++ s).toUTF8 = .ok none)) ∧
    (∀ body : ByteArray, (∀ s, Text.decodeDocument? body = some s →
      nesting s ≤ limit ∧ ¬∃ v, Document .standard s.toList v) → errorText limit body = .ok none) ∧
    ∀ body : ByteArray, maxInspectedBody < body.size → errorText limit body = .ok none := by
  have hone : ∀ (s : String) (body : ByteArray), (¬∃ v, Document .standard s.toList v) →
      nesting s ≤ limit → Text.decodeDocument? body = some s → errorText limit body = .ok none := by
    intro s body hno hnesting hdecode
    refine errorText_outside fun s' hdecode' => ?_
    rw [hdecode] at hdecode'
    cases hdecode'
    exact ⟨hnesting, hno⟩
  refine ⟨fun s fs hobject hsize hnesting => ?_, fun s v hdocument hno hnesting => ?_,
    fun s hno hnesting hmark hzero => ?_,
    fun s hsize => ⟨fun ⟨v, hdocument⟩ => ?_, fun hno hnesting => ?_⟩,
    fun body hbody => errorText_outside hbody, fun body hsize => ?_⟩
  · rw [errorText_of_object (fun n hn => hn) hobject hsize hnesting, errorOfFields_eq]
    refine ⟨fun t ht hsaid => ?_, fun t ht hsilent hsaid => ?_, fun hsilent hsilent' => ?_⟩
    · rw [filter_said ht hsaid]
      rfl
    · rw [filter_of_silent hsilent, filter_said ht hsaid]
      rfl
    · rw [filter_of_silent hsilent, filter_of_silent hsilent']
      rfl
  · refine errorText_eq_none fun s' hdecode => ?_
    rw [hdocument.decode] at hdecode
    cases hdecode
    refine ⟨hnesting, fun fields hread => ?_⟩
    obtain ⟨fs, hv⟩ := exists_record hdocument (read_eq_ok_iff.1 hread)
    exact hno fs hv
  · exact hone s _ hno hnesting (Text.decodeDocument?_toUTF8 hmark hzero)
  · exact errorText_mark hdocument hsize
  · exact hone s _ hno hnesting (Text.decodeDocument?_mark s)
  · simp [errorText, hsize]

/-- An object that tells an error. -/
def gone : String := "\x7b\"detail\":\"no\",\"error\": \"gone\"\x7d"

theorem objectText_gone :
    ObjectText .faithful gone.toList [("detail", .text "no"), ("error", .text "gone")] := by
  have hgone : Spells .faithful "\"gone\"\x7d".toList (.value (.text "gone")) "\x7d".toList :=
    .text (stringText_unescaped _ (by decide : "gone".toList.all isUnescaped) _)
  have hlast : Spells .faithful "\"error\": \"gone\"\x7d".toList
      (.fields [("error", .text "gone")]) [] :=
    .lastField (stringText_unescaped _ (by decide : "error".toList.all isUnescaped) _) .nil
      (.cons rfl .nil) hgone .nil
  have hno : Spells .faithful "\"no\",\"error\": \"gone\"\x7d".toList (.value (.text "no"))
      ",\"error\": \"gone\"\x7d".toList :=
    .text (stringText_unescaped _ (by decide : "no".toList.all isUnescaped) _)
  have hall : Spells .faithful "\"detail\":\"no\",\"error\": \"gone\"\x7d".toList
      (.fields [("detail", .text "no"), ("error", .text "gone")]) [] :=
    .nextField (stringText_unescaped _ (by decide : "detail".toList.all isUnescaped) _) .nil .nil
      hno .nil .nil hlast
  exact ⟨_, [], .nil, .nil, .inr ⟨_, .nil, hall⟩⟩

theorem nesting_gone : nesting gone ≤ 1 := by
  have hread : read gone = .ok (.record [("detail", .text "no"), ("error", .text "gone")]) :=
    read_of_document (d := .faithful) (fun n hn => hn)
      (document_record_iff.2 ⟨_, objectText_gone, rfl⟩)
  rw [nesting, hread]
  decide +kernel

theorem errorText_told_gone :
    ObjectText .faithful gone.toList [("detail", .text "no"), ("error", .text "gone")] ∧
    gone.toUTF8.size ≤ maxInspectedBody ∧ nesting gone ≤ 1 ∧
    Says [("detail", .text "no"), ("error", .text "gone")] "error" (.text "gone") ∧
    errorText 1 gone.toUTF8 = .ok (some "gone") := by
  have hsize : gone.toUTF8.size ≤ maxInspectedBody := by decide +kernel
  have hsaid : Says [("detail", .text "no"), ("error", .text "gone")] "error" (.text "gone") :=
    ⟨[("detail", .text "no")], [], rfl, by simp⟩
  exact ⟨objectText_gone, hsize, nesting_gone, hsaid,
    ((errorText_told 1).1 gone _ objectText_gone hsize nesting_gone).1 "gone" (by decide) hsaid⟩

/-- A text that is no JSON tells an error if its octets are those of an object behind a byte order
mark, or of an object in another encoding. A JSON text that is no object makes the search fail if it
is nested deeper than the limit. -/
theorem errorText_other_encodings :
    let marked := "\ufeff" ++ gone
    let wide := String.ofList (gone.toList.flatMap fun c => [c, '\x00'])
    let deep := String.ofList (bracketed 5000 [])
    ((¬∃ v, Document .standard marked.toList v) ∧
      errorText 1000 marked.toUTF8 = .ok (some "gone")) ∧
    ((¬∃ v, Document .standard wide.toList v) ∧ errorText 1000 wide.toUTF8 = .ok (some "gone")) ∧
    (∃ vs, Document .standard deep.toList (.list vs)) ∧
      errorText 1000 deep.toUTF8 = .error .tooDeep := by
  intro marked wide deep
  have hread : read gone = .ok (.record [("detail", .text "no"), ("error", .text "gone")]) :=
    read_of_document (d := .faithful) (fun n hn => hn)
      (document_record_iff.2 ⟨_, objectText_gone, rfl⟩)
  have hnesting : nesting gone ≤ 1000 := nesting_gone.trans (by decide)
  have hdeep : ∃ vs, Document .standard deep.toList (.list vs) := by
    obtain ⟨vs, hvs⟩ := exists_spells_bracketed .standard 5000 []
    rw [String.toList_ofList]
    exact ⟨vs, _, [], .nil, hvs, .nil⟩
  refine ⟨⟨?_, ?_⟩, ⟨?_, ?_⟩, hdeep, ?_⟩
  · rintro ⟨v, h⟩
    exact h.head_ne_mark (by rw [String.toList_append]; rfl)
  · exact errorText_of_read (by decide +kernel) (by decide +kernel) (Text.decodeDocument?_mark gone)
      hnesting hread
  · rintro ⟨v, h⟩
    exact h.front.2 (by decide +kernel)
  · have hdecode : Text.decodeDocument? wide.toUTF8 = some gone := by
      rw [Text.decodeDocument?, Text.toList_extract_four, Text.toList_toUTF8]
      decide +kernel
    exact errorText_of_read (by decide +kernel) (by decide +kernel) hdecode hnesting hread
  · obtain ⟨vs, hdocument⟩ := hdeep
    have hsize : deep.toUTF8.size = 10002 := size_bracketed 5000
    have hlt : 5000 < nesting deep := lt_nesting_bracketed 5000
    exact errorText_of_deep (by omega) (by rw [hsize]; decide) hdocument.decode (by omega)

end TableExplorer.RequestLog
