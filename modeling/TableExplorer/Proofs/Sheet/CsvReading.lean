import Mathlib.Data.List.Basic
import TableExplorer.Proofs.Text.Utf
import TableExplorer.Sheet.Csv

/-!
# Reading comma-separated files

The standard reading of a file is a machine that takes one character after the other. Fields are
split at commas outside quotes, and records end at line feeds outside quotes and nowhere else, so
that a carriage return is a character like any other. Inside quotes a doubled quote is one quote.
An empty line is a record without fields. A quote inside a field without quotes, a text behind a
closing quote and an open quote at the end are malformed.

Whatever records are written, they are read back. The record of one empty field has quotes, which
tell it from an empty line.

Main result: `Csv.decode_toUTF8`.
-/

namespace TableExplorer.Sheet.Csv

/-! ## The reader -/

/-- Where a reader stands: at the beginning of a record, at the beginning of a further field, in a
field without quotes, inside quotes, or behind a quote that may have closed them. -/
inductive Place
  | record
  | field
  | bare
  | quoted
  | closed
  deriving DecidableEq, Repr

/-- What a character is: one of the field, a quote around the field, the end of a field, the end of
a record, or the end of a line on which nothing stands. -/
inductive Meaning
  | letter
  | quoting
  | nextField
  | nextRecord
  | emptyLine
  deriving DecidableEq, Repr

/-- The character at the beginning of a field. -/
def begin (c : Char) : Meaning × Place :=
  if c = '\n' then (.nextRecord, .record)
  else if c = comma then (.nextField, .field)
  else if c = quote then (.quoting, .quoted)
  else (.letter, .bare)

/-- What a character is where the reader stands, and where it leads; `none` if it is malformed. -/
def step (p : Place) (c : Char) : Option (Meaning × Place) :=
  match p with
  | .record => if c = '\n' then some (.emptyLine, .record) else some (begin c)
  | .field => some (begin c)
  | .bare =>
    if c = '\n' then some (.nextRecord, .record)
    else if c = comma then some (.nextField, .field)
    else if c = quote then none
    else some (.letter, .bare)
  | .quoted => if c = quote then some (.quoting, .closed) else some (.letter, .quoted)
  | .closed =>
    if c = '\n' then some (.nextRecord, .record)
    else if c = comma then some (.nextField, .field)
    else if c = quote then some (.letter, .quoted)
    else none

/-- Put characters in front of the first field of the first record. -/
def extend (cs : List Char) : List (List (List Char)) → List (List (List Char))
  | (f :: fs) :: rs => ((cs ++ f) :: fs) :: rs
  | rs => rs

/-- Put an empty field in front of the first record. -/
def openField : List (List (List Char)) → List (List (List Char))
  | r :: rs => ([] :: r) :: rs
  | [] => []

/-- What a character adds to the records that are read behind it. -/
def Meaning.write (c : Char) : Meaning → List (List (List Char)) → List (List (List Char))
  | letter => extend [c]
  | quoting => id
  | nextField => openField
  | nextRecord => ([[]] :: ·)
  | emptyLine => ([] :: ·)

/-- What is read at the end of a file. -/
def Place.finish : Place → Option (List (List (List Char)))
  | record => some []
  | quoted => none
  | _ => some [[[]]]

/-- The records of a text, the first of which goes on where the reader stands. -/
def scan : Place → List Char → Option (List (List (List Char)))
  | p, [] => p.finish
  | p, c :: cs =>
    match step p c with
    | none => none
    | some (m, next) => (scan next cs).map (m.write c)

/-- The records of a text. -/
def read (cs : List Char) : Option (List (List String)) :=
  (scan .record cs).map fun rs => rs.map fun r => r.map String.ofList

/-- The records of a file: its octets are those of a text, which begins with a byte order mark. -/
def decode (octets : ByteArray) : Option (List (List String)) :=
  match (String.fromUTF8? octets).map String.toList with
  | some (c :: cs) => if c = mark then read cs else none
  | _ => none

/-! ## Fields -/

theorem scan_cons {p next : Place} {c : Char} {m : Meaning} (h : step p c = some (m, next))
    (cs : List Char) : scan p (c :: cs) = (scan next cs).map (m.write c) := by
  simp [scan, h]

theorem extend_nil (rs : List (List (List Char))) : extend [] rs = rs := by
  rcases rs with _ | ⟨_ | ⟨f, fs⟩, rs⟩ <;> rfl

theorem extend_append (cs ds : List Char) (rs : List (List (List Char))) :
    extend cs (extend ds rs) = extend (cs ++ ds) rs := by
  rcases rs with _ | ⟨_ | ⟨f, fs⟩, rs⟩ <;> simp [extend]

theorem map_extend_nil (x : Option (List (List (List Char)))) : x.map (extend []) = x := by
  cases x <;> simp [extend_nil]

theorem map_extend_cons (c : Char) (cs : List Char) (x : Option (List (List (List Char)))) :
    (x.map (extend cs)).map (extend [c]) = x.map (extend (c :: cs)) := by
  cases x <;> simp [extend_append]

theorem needsQuotes_cons (c : Char) (cs : List Char) :
    needsQuotes (c :: cs) = false ↔
      (c ≠ comma ∧ c ≠ quote ∧ c ≠ '\n') ∧ needsQuotes cs = false := by
  simp [needsQuotes, not_or, and_assoc]

theorem scan_bare {field : List Char} (h : needsQuotes field = false) (rest : List Char) :
    scan .bare (field ++ rest) = (scan .bare rest).map (extend field) := by
  induction field with
  | nil => simp [map_extend_nil]
  | cons c cs ih =>
    obtain ⟨⟨hcomma, hquote, hline⟩, hcs⟩ := (needsQuotes_cons c cs).1 h
    have hstep : step .bare c = some (.letter, .bare) := by
      simp [step, hcomma, hquote, hline]
    rw [List.cons_append, scan_cons hstep, ih hcs]
    exact map_extend_cons c cs _

/-- Inside quotes every character is read as it is, and a doubled quote as one. -/
theorem scan_quoted (field rest : List Char) :
    scan .quoted (doubled field ++ quote :: rest) = (scan .closed rest).map (extend field) := by
  induction field with
  | nil =>
    have hstep : step .quoted quote = some (.quoting, .closed) := rfl
    simp [doubled, scan_cons hstep, Meaning.write, map_extend_nil]
  | cons c cs ih =>
    by_cases hc : c = quote
    · subst hc
      have hfirst : step .quoted quote = some (.quoting, .closed) := rfl
      have hsecond : step .closed quote = some (.letter, .quoted) := rfl
      have hdoubled : doubled (quote :: cs) = quote :: quote :: doubled cs := rfl
      rw [hdoubled, List.cons_append, List.cons_append, scan_cons hfirst, scan_cons hsecond, ih]
      simp only [Meaning.write, Option.map_id, id_eq]
      exact map_extend_cons quote cs _
    · have hstep : step .quoted c = some (.letter, .quoted) := by simp [step, hc]
      have hdoubled : doubled (c :: cs) = c :: doubled cs := by simp [doubled, hc]
      rw [hdoubled, List.cons_append, scan_cons hstep, ih]
      exact map_extend_cons c cs _

/-- The places at which a field may end. -/
inductive Place.Ends : Place → Prop
  | field : Ends .field
  | bare : Ends .bare
  | closed : Ends .closed

theorem Place.Ends.scan_comma {p : Place} (h : p.Ends) (cs : List Char) :
    scan p (comma :: cs) = (scan .field cs).map openField := by
  cases h <;> rfl

theorem Place.Ends.scan_line {p : Place} (h : p.Ends) (cs : List Char) :
    scan p ('\n' :: cs) = (scan .record cs).map ([[]] :: ·) := by
  cases h <;> rfl

/-- **A field is read back**, up to a place at which it may end. -/
theorem scan_renderField (field : List Char) :
    ∃ p : Place, p.Ends ∧ ∀ rest,
      scan .field (renderField field ++ rest) = (scan p rest).map (extend field) := by
  by_cases hquotes : needsQuotes field
  · refine ⟨.closed, .closed, fun rest => ?_⟩
    have hstep : step .field quote = some (.quoting, .quoted) := rfl
    have hwritten : renderField field ++ rest = quote :: (doubled field ++ quote :: rest) := by
      simp [renderField, hquotes]
    rw [hwritten, scan_cons hstep, scan_quoted]
    simp [Meaning.write]
  · rw [Bool.not_eq_true] at hquotes
    have hwritten : renderField field = field := by simp [renderField, hquotes]
    rw [hwritten]
    cases field with
    | nil => exact ⟨.field, .field, fun rest => (map_extend_nil _).symm⟩
    | cons c cs =>
      -- The first character leads out of the beginning of the field.
      refine ⟨.bare, .bare, fun rest => ?_⟩
      obtain ⟨⟨hcomma, hquote, hline⟩, hcs⟩ := (needsQuotes_cons c cs).1 hquotes
      have hstep : step .field c = some (.letter, .bare) := by
        simp [step, begin, hcomma, hquote, hline]
      rw [List.cons_append, scan_cons hstep, scan_bare hcs]
      exact map_extend_cons c cs _

/-! ## Records -/

/-- The fields of a record, written one after the other. -/
def joined (fields : List (List Char)) : List Char :=
  List.intercalate [comma] (fields.map renderField)

theorem joined_cons (f g : List Char) (fs : List (List Char)) :
    joined (f :: g :: fs) = renderField f ++ comma :: joined (g :: fs) := by
  simp [joined, List.intercalate]

theorem scan_joined {fields : List (List Char)} (hne : fields ≠ []) (rest : List Char) :
    scan .field (joined fields ++ '\n' :: rest) = (scan .record rest).map (fields :: ·) := by
  induction fields with
  | nil => exact absurd rfl hne
  | cons f fs ih =>
    obtain ⟨p, hends, hread⟩ := scan_renderField f
    cases fs with
    | nil =>
      have hwritten : joined [f] = renderField f := by simp [joined, List.intercalate]
      rw [hwritten, hread, hends.scan_line]
      cases scan .record rest <;> simp [extend]
    | cons g gs =>
      rw [joined_cons, List.append_assoc, List.cons_append, hread, hends.scan_comma,
        ih (List.cons_ne_nil g gs)]
      cases scan .record rest <;> simp [extend, openField]

/-- At the beginning of a record only a line feed is not what it is at the beginning of a field. -/
theorem scan_record {c : Char} (h : c ≠ '\n') (cs : List Char) :
    scan .record (c :: cs) = scan .field (c :: cs) := by
  simp [scan, step, h]

theorem head_renderField {c : Char} {cs : List Char} {field : List Char}
    (h : renderField field = c :: cs) : c ≠ '\n' := by
  rintro rfl
  by_cases hquotes : needsQuotes field
  · simp [renderField, hquotes, quote] at h
  · simp only [renderField, hquotes, Bool.false_eq_true, if_false] at h
    subst h
    simp [needsQuotes] at hquotes

theorem joined_eq_cons {fields : List (List Char)} (hne : fields ≠ []) (hone : fields ≠ [[]]) :
    ∃ c cs, c ≠ '\n' ∧ joined fields = c :: cs := by
  obtain ⟨f, fs, rfl⟩ := List.exists_cons_of_ne_nil hne
  cases hfield : renderField f with
  | cons c cs =>
    have hline := head_renderField hfield
    cases fs with
    | nil => exact ⟨c, cs, hline, by simp [joined, List.intercalate, hfield]⟩
    | cons g gs => exact ⟨c, cs ++ comma :: joined (g :: gs), hline, by simp [joined_cons, hfield]⟩
  | nil =>
    cases fs with
    | cons g gs => exact ⟨comma, joined (g :: gs), by decide, by simp [joined_cons, hfield]⟩
    | nil =>
      have hempty : f = [] := by
        by_cases hquotes : needsQuotes f
        · simp [renderField, hquotes] at hfield
        · simpa [renderField, hquotes] using hfield
      exact absurd (by rw [hempty]) hone

theorem scan_renderRecord (fields : List (List Char)) (rest : List Char) :
    scan .record (renderRecord fields ++ '\n' :: rest) =
      (scan .record rest).map (fields :: ·) := by
  by_cases hone : fields = [[]]
  · subst hone
    cases h : scan .record rest <;>
      simp [renderRecord, scan, step, begin, quote, comma, Meaning.write, h]
  · have hwritten : renderRecord fields = joined fields := by
      unfold renderRecord joined
      split
      · exact absurd rfl hone
      · rfl
    rw [hwritten]
    by_cases hne : fields = []
    · subst hne
      rfl
    · obtain ⟨c, cs, hline, hcons⟩ := joined_eq_cons hne hone
      rw [← scan_joined hne, hcons, List.cons_append, scan_record hline]

/-- **Written records are read back**, those without fields included. -/
theorem scan_renderLines (records : List (List (List Char))) :
    scan .record (renderLines records) = some records := by
  induction records with
  | nil => rfl
  | cons r rs ih =>
    have hlines : renderLines (r :: rs) = renderRecord r ++ '\n' :: renderLines rs := by
      simp [renderLines]
    rw [hlines, scan_renderRecord, ih]
    rfl

/-! ## Files -/

/-- **A written file is read back.** -/
theorem decode_toUTF8 (records : List (List String)) :
    decode (String.ofList (mark :: renderLines (records.map (·.map String.toList)))).toUTF8 =
      some records := by
  rw [decode, Text.fromUTF8?_toUTF8]
  simp [read, scan_renderLines, Function.comp_def]

end TableExplorer.Sheet.Csv
