import TableExplorer.Json.Reader

/-!
# The grammar of JSON

The texts of JSON values, as a relation between a text, what its front says and what is left behind
that front. It is the grammar of the standard with the words `NaN`, `Infinity` and `-Infinity`
besides. An object keeps the last value of a name. A dialect says how long an integer may be and
whether a string may hold half of a surrogate pair; such a half has no character and is U+FFFD.

Every text of a value begins with a character of its own, holds no NUL, and is a text of the
standard dialect as well.
-/

namespace TableExplorer.Json

/-- What a grammar lets pass: the numbers of digits of an integer, and surrogates that stand alone
in a string. -/
structure Dialect where
  digits : Nat → Prop
  lone : Prop

/-- The dialect of the standard. -/
def Dialect.standard : Dialect := { digits := fun _ => True, lone := True }

/-- The dialect of the reader. -/
def Dialect.readable : Dialect := { digits := (· ≤ maxIntegerDigits), lone := True }

/-- The dialect in which nothing is lost by reading. -/
def Dialect.faithful : Dialect := { digits := (· ≤ maxIntegerDigits), lone := False }

/-! ## White space -/

inductive Blanks : List Char → List Char → Prop
  | nil {rest : List Char} : Blanks rest rest
  | cons {c : Char} {cs rest : List Char} (hc : isSpace c = true) (hcs : Blanks cs rest) :
    Blanks (c :: cs) rest

/-! ## Strings -/

/-- A string from behind its opening quote to behind its closing one, as code units. -/
inductive Codes : List Char → List Nat → List Char → Prop
  | close {rest : List Char} : Codes ('"' :: rest) [] rest
  | plain {c : Char} {cs rest : List Char} {us : List Nat} (hquote : c ≠ '"') (hslash : c ≠ '\\')
    (hcontrol : 0x20 ≤ c.toNat) (hcs : Codes cs us rest) : Codes (c :: cs) (c.toNat :: us) rest
  | short {e c : Char} {cs rest : List Char} {us : List Nat} (he : shortEscape? e = some c)
    (hcs : Codes cs us rest) : Codes ('\\' :: e :: cs) (c.toNat :: us) rest
  | numbered {a b c d : Char} {n : Nat} {cs rest : List Char} {us : List Nat}
    (hn : hex4? a b c d = some n) (hcs : Codes cs us rest) :
    Codes ('\\' :: 'u' :: a :: b :: c :: d :: cs) (n :: us) rest

/-- The first half of a surrogate pair. -/
def IsHigh (u : Nat) : Prop := 0xd800 ≤ u ∧ u < 0xdc00

/-- The second half of a surrogate pair. -/
def IsLow (u : Nat) : Prop := 0xdc00 ≤ u ∧ u < 0xe000

/-- The characters of code units. -/
inductive Joined (lone : Prop) : List Nat → List Char → Prop
  | nil : Joined lone [] []
  | scalar {u : Nat} {us : List Nat} {cs : List Char} (hhigh : ¬IsHigh u) (hlow : ¬IsLow u)
    (hus : Joined lone us cs) : Joined lone (u :: us) (Char.ofNat u :: cs)
  | pair {u v : Nat} {us : List Nat} {cs : List Char} (hu : IsHigh u) (hv : IsLow v)
    (hus : Joined lone us cs) :
    Joined lone (u :: v :: us) (Char.ofNat (0x10000 + (u - 0xd800) * 0x400 + (v - 0xdc00)) :: cs)
  | alone {u : Nat} {us : List Nat} {cs : List Char} (hlone : lone)
    (hu : IsLow u ∨ IsHigh u ∧ ∀ v ∈ us.head?, ¬IsLow v) (hus : Joined lone us cs) :
    Joined lone (u :: us) ('\ufffd' :: cs)

/-- A string behind its opening quote. -/
def StringText (d : Dialect) (cs : List Char) (s : String) (rest : List Char) : Prop :=
  ∃ us, Codes cs us rest ∧ Joined d.lone us s.toList

/-- A character that a string holds as it is. -/
def isUnescaped (c : Char) : Bool := c ≠ '"' ∧ c ≠ '\\' ∧ 0x20 ≤ c.toNat

theorem codes_unescaped {cs : List Char} (h : cs.all isUnescaped = true) (rest : List Char) :
    Codes (cs ++ '"' :: rest) (cs.map Char.toNat) rest := by
  induction cs with
  | nil => exact .close
  | cons c cs ih =>
    simp only [List.all_cons, isUnescaped, Bool.and_eq_true, decide_eq_true_eq] at h
    obtain ⟨⟨hquote, hslash, hcontrol⟩, hcs⟩ := h
    exact .plain hquote hslash hcontrol (ih hcs)

theorem joined_toNat (lone : Prop) (cs : List Char) : Joined lone (cs.map Char.toNat) cs := by
  induction cs with
  | nil => exact .nil
  | cons c cs ih =>
    have hvalid : c.toNat < 0xd800 ∨ 0xdfff < c.toNat ∧ c.toNat < 0x110000 := c.valid
    have hscalar := Joined.scalar (u := c.toNat) (fun h => by unfold IsHigh at h; omega)
      (fun h => by unfold IsLow at h; omega) ih
    rwa [Char.ofNat_toNat] at hscalar

theorem stringText_unescaped (d : Dialect) {cs : List Char} (h : cs.all isUnescaped = true)
    (rest : List Char) : StringText d (cs ++ '"' :: rest) (String.ofList cs) rest := by
  refine ⟨_, codes_unescaped h rest, ?_⟩
  rw [String.toList_ofList]
  exact joined_toNat d.lone cs

/-! ## Numbers -/

inductive Digits : List Char → List Nat → List Char → Prop
  | last {c : Char} {n : Nat} {rest : List Char} (hc : Text.asciiDigit? c = some n) :
    Digits (c :: rest) [n] rest
  | more {c : Char} {n : Nat} {cs rest : List Char} {ns : List Nat}
    (hc : Text.asciiDigit? c = some n) (hcs : Digits cs ns rest) : Digits (c :: cs) (n :: ns) rest

/-- The whole part of a number: a zero alone, or digits that begin with another one. -/
inductive Whole : List Char → List Nat → List Char → Prop
  | zero {rest : List Char} : Whole ('0' :: rest) [0] rest
  | digits {c : Char} {cs rest : List Char} {ns : List Nat} (hc : c ≠ '0')
    (hcs : Digits (c :: cs) ns rest) : Whole (c :: cs) ns rest

/-- The fraction of a number, if it has one. -/
inductive Fraction : List Char → Option (List Nat) → List Char → Prop
  | absent {rest : List Char} : Fraction rest none rest
  | present {cs rest : List Char} {ns : List Nat} (hcs : Digits cs ns rest) :
    Fraction ('.' :: cs) (some ns) rest

/-- The sign of an exponent: whether it is a minus. -/
inductive ExponentSign : List Char → Bool → List Char → Prop
  | absent {rest : List Char} : ExponentSign rest false rest
  | plus {rest : List Char} : ExponentSign ('+' :: rest) false rest
  | minus {rest : List Char} : ExponentSign ('-' :: rest) true rest

/-- The exponent of a number, if it has one. -/
inductive Exponent : List Char → Option Int → List Char → Prop
  | absent {rest : List Char} : Exponent rest none rest
  | present {c : Char} {cs signed rest : List Char} {negative : Bool} {ns : List Nat}
    (hc : c = 'e' ∨ c = 'E') (hsign : ExponentSign cs negative signed)
    (hcs : Digits signed ns rest) :
    Exponent (c :: cs) (some (Text.signed negative (Text.ofDigits ns))) rest

/-- The value of a number: an integer if it has neither fraction nor exponent, else a double. -/
def numeral (negative : Bool) (whole : List Nat) (fraction : Option (List Nat))
    (exponent : Option Int) : Value :=
  match fraction, exponent with
  | none, none => .int (Text.signed negative (Text.ofDigits whole))
  | _, _ =>
    .real (Decimal.ofParts negative whole (fraction.getD []) (exponent.getD 0)).toDouble

/-- A number behind its sign. -/
inductive Unsigned (d : Dialect) (negative : Bool) : List Char → Value → List Char → Prop
  | parts {cs c1 c2 rest : List Char} {whole : List Nat} {fraction : Option (List Nat)}
    {exponent : Option Int} (hwhole : Whole cs whole c1) (hfraction : Fraction c1 fraction c2)
    (hexponent : Exponent c2 exponent rest)
    (hdigits : fraction = none → exponent = none → d.digits whole.length) :
    Unsigned d negative cs (numeral negative whole fraction exponent) rest

inductive Number (d : Dialect) : List Char → Value → List Char → Prop
  | plus {cs rest : List Char} {v : Value} (hcs : Unsigned d false cs v rest) : Number d cs v rest
  | minus {cs rest : List Char} {v : Value} (hcs : Unsigned d true cs v rest) :
    Number d ('-' :: cs) v rest

/-! ## Values -/

/-- What a part of a document says: a value, the members of an array from the first one on, or the
fields of an object from the first one on. -/
inductive Part
  | value (v : Value)
  | members (vs : List Value)
  | fields (fs : List (String × Value))

/-- The front of a text says something, and this is left. Members and fields reach to behind the
closing bracket or brace. -/
inductive Spells (d : Dialect) : List Char → Part → List Char → Prop
  | text {cs rest : List Char} {s : String} (hcs : StringText d cs s rest) :
    Spells d ('"' :: cs) (.value (.text s)) rest
  | number {cs rest : List Char} {v : Value} (hcs : Number d cs v rest) :
    Spells d cs (.value v) rest
  | word {w rest : List Char} {v : Value} (hw : (w, v) ∈ words) :
    Spells d (w ++ rest) (.value v) rest
  | emptyList {cs rest : List Char} (hblanks : Blanks cs (']' :: rest)) :
    Spells d ('[' :: cs) (.value (.list [])) rest
  | list {cs front rest : List Char} {vs : List Value} (hblanks : Blanks cs front)
    (hmembers : Spells d front (.members vs) rest) : Spells d ('[' :: cs) (.value (.list vs)) rest
  | emptyRecord {cs rest : List Char} (hblanks : Blanks cs ('\x7d' :: rest)) :
    Spells d ('\x7b' :: cs) (.value (.record [])) rest
  | record {cs front rest : List Char} {fs : List (String × Value)} (hblanks : Blanks cs front)
    (hfields : Spells d front (.fields fs) rest) :
    Spells d ('\x7b' :: cs) (.value (.record (Dict.ofList fs))) rest
  | lastMember {cs behind rest : List Char} {v : Value} (hvalue : Spells d cs (.value v) behind)
    (hblanks : Blanks behind (']' :: rest)) : Spells d cs (.members [v]) rest
  | nextMember {cs behind comma next rest : List Char} {v : Value} {vs : List Value}
    (hvalue : Spells d cs (.value v) behind) (hblanks : Blanks behind (',' :: comma))
    (hnext : Blanks comma next) (hmembers : Spells d next (.members vs) rest) :
    Spells d cs (.members (v :: vs)) rest
  | lastField {cs named colon front behind rest : List Char} {name : String} {v : Value}
    (hname : StringText d cs name named) (hcolon : Blanks named (':' :: colon))
    (hfront : Blanks colon front) (hvalue : Spells d front (.value v) behind)
    (hblanks : Blanks behind ('\x7d' :: rest)) : Spells d ('"' :: cs) (.fields [(name, v)]) rest
  | nextField {cs named colon front behind comma next rest : List Char} {name : String} {v : Value}
    {fs : List (String × Value)} (hname : StringText d cs name named)
    (hcolon : Blanks named (':' :: colon)) (hfront : Blanks colon front)
    (hvalue : Spells d front (.value v) behind) (hblanks : Blanks behind (',' :: comma))
    (hnext : Blanks comma next) (hfields : Spells d next (.fields fs) rest) :
    Spells d ('"' :: cs) (.fields ((name, v) :: fs)) rest

/-- A whole text says a value, with white space around it. -/
def Document (d : Dialect) (cs : List Char) (v : Value) : Prop :=
  ∃ front behind, Blanks cs front ∧ Spells d front (.value v) behind ∧ Blanks behind []

/-! ## Fronts -/

/-- A front of a text without NUL, and what is left behind it. -/
def Front (cs rest : List Char) : Prop := ∃ text, cs = text ++ rest ∧ '\x00' ∉ text

namespace Front

theorem refl (cs : List Char) : Front cs cs := ⟨[], rfl, by simp⟩

theorem cons {c : Char} {cs rest : List Char} (hc : c ≠ '\x00') (h : Front cs rest) :
    Front (c :: cs) rest := by
  obtain ⟨text, rfl, htext⟩ := h
  refine ⟨c :: text, rfl, ?_⟩
  rw [List.mem_cons, not_or]
  exact ⟨Ne.symm hc, htext⟩

theorem trans {cs ds es : List Char} (h : Front cs ds) (h' : Front ds es) : Front cs es := by
  obtain ⟨front, rfl, hfront⟩ := h
  obtain ⟨back, rfl, hback⟩ := h'
  refine ⟨front ++ back, (List.append_assoc ..).symm, ?_⟩
  rw [List.mem_append, not_or]
  exact ⟨hfront, hback⟩

theorem length_le {cs rest : List Char} (h : Front cs rest) : rest.length ≤ cs.length := by
  obtain ⟨text, rfl, -⟩ := h
  rw [List.length_append]
  omega

end Front

def wordStarts : List Char := ['n', 't', 'f', 'N', 'I', '-']

def valueStarts : List Char :=
  ['"', '\x7b', '[', '0', '1', '2', '3', '4', '5', '6', '7', '8', '9'] ++ wordStarts

/-- A front of a text that begins like a value. -/
def Begins (cs rest : List Char) : Prop :=
  ∃ c behind, cs = c :: behind ∧ c ∈ valueStarts ∧ Front behind rest

theorem ne_nul_of_mem_valueStarts {c : Char} (h : c ∈ valueStarts) : c ≠ '\x00' := by
  rintro rfl
  exact absurd h (by decide)

namespace Begins

theorem front {cs rest : List Char} (h : Begins cs rest) : Front cs rest := by
  obtain ⟨c, behind, rfl, hc, hbehind⟩ := h
  exact hbehind.cons (ne_nul_of_mem_valueStarts hc)

theorem trans {cs ds es : List Char} (h : Begins cs ds) (h' : Front ds es) : Begins cs es := by
  obtain ⟨c, behind, rfl, hc, hbehind⟩ := h
  exact ⟨c, behind, rfl, hc, hbehind.trans h'⟩

theorem length_lt {cs rest : List Char} (h : Begins cs rest) : rest.length < cs.length := by
  obtain ⟨c, behind, rfl, -, hbehind⟩ := h
  exact Nat.lt_succ_of_le hbehind.length_le

end Begins

namespace Blanks

theorem front {cs rest : List Char} (h : Blanks cs rest) : Front cs rest := by
  induction h with
  | nil => exact .refl _
  | cons hc _ ih =>
    refine ih.cons ?_
    rintro rfl
    exact absurd hc (by decide)

theorem front_sign {c : Char} {cs rest : List Char} (h : Blanks cs (c :: rest))
    (hc : c ≠ '\x00') : Front cs rest :=
  h.front.trans (.cons hc (.refl _))

end Blanks

theorem ne_nul_of_hexDigit? {c : Char} {n : Nat} (h : hexDigit? c = some n) : c ≠ '\x00' := by
  have hnul : hexDigit? '\x00' = none := by decide
  rintro rfl
  rw [hnul] at h
  cases h

theorem hexDigits_of_hex4? {a b c d : Char} {n : Nat} (h : hex4? a b c d = some n) :
    ∃ i j k l, hexDigit? a = some i ∧ hexDigit? b = some j ∧ hexDigit? c = some k ∧
      hexDigit? d = some l := by
  cases ha : hexDigit? a <;> cases hb : hexDigit? b <;> cases hc : hexDigit? c <;>
    cases hd : hexDigit? d <;> simp_all [hex4?]

theorem Codes.front {cs rest : List Char} {us : List Nat} (h : Codes cs us rest) :
    Front cs rest := by
  induction h with
  | close => exact .cons (by decide) (.refl _)
  | plain _ _ hcontrol _ ih =>
    refine ih.cons ?_
    rintro rfl
    exact absurd hcontrol (by decide)
  | short he _ ih =>
    have hnul : shortEscape? '\x00' = none := by decide
    refine .cons (by decide) (ih.cons ?_)
    rintro rfl
    rw [hnul] at he
    cases he
  | numbered hn _ ih =>
    obtain ⟨i, j, k, l, ha, hb, hc, hd⟩ := hexDigits_of_hex4? hn
    exact .cons (by decide) (.cons (by decide) (.cons (ne_nul_of_hexDigit? ha)
      (.cons (ne_nul_of_hexDigit? hb) (.cons (ne_nul_of_hexDigit? hc)
        (ih.cons (ne_nul_of_hexDigit? hd))))))

theorem mem_valueStarts_of_digit {c : Char} {n : Nat} (h : Text.asciiDigit? c = some n) :
    c ∈ valueStarts := by
  have hdigits : ∀ n < 58, 48 ≤ n → Char.ofNat n ∈ valueStarts := by decide
  unfold Text.asciiDigit? at h
  split at h
  · next hc =>
    have hlow : 48 ≤ c.toNat := hc.1
    have hhigh : c.toNat ≤ 57 := hc.2
    have hmem := hdigits c.toNat (by omega) hlow
    rwa [Char.ofNat_toNat] at hmem
  · cases h

theorem Digits.front {cs rest : List Char} {ns : List Nat} (h : Digits cs ns rest) :
    Front cs rest := by
  induction h with
  | last hc => exact .cons (ne_nul_of_mem_valueStarts (mem_valueStarts_of_digit hc)) (.refl _)
  | more hc _ ih => exact ih.cons (ne_nul_of_mem_valueStarts (mem_valueStarts_of_digit hc))

theorem Fraction.front {cs rest : List Char} {fraction : Option (List Nat)}
    (h : Fraction cs fraction rest) : Front cs rest := by
  cases h with
  | absent => exact .refl _
  | present hcs => exact hcs.front.cons (by decide)

theorem Exponent.front {cs rest : List Char} {exponent : Option Int}
    (h : Exponent cs exponent rest) : Front cs rest := by
  cases h with
  | absent => exact .refl _
  | present hc hsign hcs =>
    have hletter : ∀ c : Char, c = 'e' ∨ c = 'E' → c ≠ '\x00' := by
      rintro c (rfl | rfl) <;> decide
    refine .cons (hletter _ hc) (.trans ?_ hcs.front)
    cases hsign with
    | absent => exact .refl _
    | plus | minus => exact .cons (by decide) (.refl _)

theorem Unsigned.exists_digit {d : Dialect} {negative : Bool} {cs rest : List Char} {v : Value}
    (h : Unsigned d negative cs v rest) :
    ∃ c behind n, cs = c :: behind ∧ Text.asciiDigit? c = some n ∧ Front behind rest := by
  obtain ⟨hwhole, hfraction, hexponent, -⟩ := h
  have hrest := hfraction.front.trans hexponent.front
  cases hwhole with
  | zero => exact ⟨'0', _, 0, rfl, by decide, hrest⟩
  | digits _ hcs =>
    cases hcs with
    | last hc => exact ⟨_, _, _, rfl, hc, hrest⟩
    | more hc hcs => exact ⟨_, _, _, rfl, hc, hcs.front.trans hrest⟩

theorem Unsigned.begins {d : Dialect} {negative : Bool} {cs rest : List Char} {v : Value}
    (h : Unsigned d negative cs v rest) : Begins cs rest := by
  obtain ⟨c, behind, n, hcs, hc, hbehind⟩ := h.exists_digit
  exact ⟨c, behind, hcs, mem_valueStarts_of_digit hc, hbehind⟩

theorem StringText.begins {d : Dialect} {cs rest : List Char} {s : String}
    (h : StringText d cs s rest) : Begins ('"' :: cs) rest := by
  obtain ⟨us, hcodes, -⟩ := h
  exact ⟨_, _, rfl, by decide, hcodes.front⟩

theorem word_begins {w : List Char} {v : Value} (h : (w, v) ∈ words) :
    ∃ c behind, w = c :: behind ∧ c ∈ wordStarts ∧ '\x00' ∉ behind ∧
      (c = '-' → behind.head? = some 'I') := by
  simp only [words, List.mem_cons, List.not_mem_nil, or_false, Prod.mk.injEq] at h
  rcases h with ⟨rfl, -⟩ | ⟨rfl, -⟩ | ⟨rfl, -⟩ | ⟨rfl, -⟩ | ⟨rfl, -⟩ | ⟨rfl, -⟩ <;>
    exact ⟨_, _, rfl, by decide, by decide, by decide⟩

/-- **What is said begins with a character of its own**, and holds no NUL. -/
theorem Spells.begins {d : Dialect} {cs rest : List Char} {part : Part}
    (h : Spells d cs part rest) : Begins cs rest := by
  induction h with
  | text hcs => exact hcs.begins
  | number hcs =>
    cases hcs with
    | plus hcs => exact hcs.begins
    | minus hcs => exact ⟨_, _, rfl, by decide, hcs.begins.front⟩
  | @word w rest v hw =>
    obtain ⟨c, behind, rfl, hc, hnul, -⟩ := word_begins hw
    exact ⟨c, behind ++ rest, rfl, List.mem_append_right _ hc, behind, rfl, hnul⟩
  | emptyList hblanks | emptyRecord hblanks =>
    exact ⟨_, _, rfl, by decide, hblanks.front_sign (by decide)⟩
  | list hblanks _ ih | record hblanks _ ih =>
    exact ⟨_, _, rfl, by decide, hblanks.front.trans ih.front⟩
  | lastMember _ hblanks ih => exact ih.trans (hblanks.front_sign (by decide))
  | nextMember _ hblanks hnext _ ih ihrest =>
    exact ih.trans ((hblanks.front_sign (by decide)).trans (hnext.front.trans ihrest.front))
  | lastField hname hcolon hfront _ hblanks ih =>
    have hvalue := (hcolon.front_sign (by decide)).trans (hfront.front.trans ih.front)
    exact hname.begins.trans (hvalue.trans (hblanks.front_sign (by decide)))
  | nextField hname hcolon hfront _ hblanks hnext _ ih ihrest =>
    have hvalue := (hcolon.front_sign (by decide)).trans (hfront.front.trans ih.front)
    have hcomma := (hblanks.front_sign (by decide)).trans (hnext.front.trans ihrest.front)
    exact hname.begins.trans (hvalue.trans hcomma)

theorem Document.front {d : Dialect} {cs : List Char} {v : Value} (h : Document d cs v) :
    (∃ c ∈ cs.head?, isSpace c = true ∨ c ∈ valueStarts) ∧ '\x00' ∉ cs := by
  obtain ⟨front, behind, hfront, hvalue, hbehind⟩ := h
  obtain ⟨text, htext, hnul⟩ := hfront.front.trans (hvalue.begins.front.trans hbehind.front)
  rw [List.append_nil] at htext
  subst htext
  refine ⟨?_, hnul⟩
  cases hfront with
  | nil =>
    obtain ⟨c, behind, rfl, hc, -⟩ := hvalue.begins
    exact ⟨c, rfl, .inr hc⟩
  | cons hc => exact ⟨_, rfl, .inl hc⟩

/-! ## Objects -/

theorem numeral_ne_record (negative : Bool) (whole : List Nat) (fraction : Option (List Nat))
    (exponent : Option Int) (fs : List (String × Value)) :
    numeral negative whole fraction exponent ≠ .record fs := by
  unfold numeral
  split <;> simp

theorem word_ne_record {w : List Char} {v : Value} (h : (w, v) ∈ words) :
    w.head? ≠ some '\x7b' ∧ ∀ fs, v ≠ .record fs := by
  simp only [words, List.mem_cons, List.not_mem_nil, or_false, Prod.mk.injEq] at h
  rcases h with ⟨rfl, rfl⟩ | ⟨rfl, rfl⟩ | ⟨rfl, rfl⟩ | ⟨rfl, rfl⟩ | ⟨rfl, rfl⟩ | ⟨rfl, rfl⟩ <;> simp

theorem Unsigned.no_record {d : Dialect} {negative : Bool} {cs rest : List Char} {v : Value}
    (h : Unsigned d negative cs v rest) :
    cs.head? ≠ some '\x7b' ∧ ∀ fs, v ≠ .record fs := by
  obtain ⟨c, behind, n, rfl, hc, -⟩ := h.exists_digit
  cases h with
  | parts =>
    refine ⟨?_, numeral_ne_record _ _ _ _⟩
    have hbrace : Text.asciiDigit? '\x7b' = none := by decide
    rw [List.head?_cons, ne_eq, Option.some_inj]
    rintro rfl
    rw [hbrace] at hc
    cases hc

theorem Number.no_record {d : Dialect} {cs rest : List Char} {v : Value}
    (h : Number d cs v rest) : cs.head? ≠ some '\x7b' ∧ ∀ fs, v ≠ .record fs := by
  cases h with
  | plus hcs => exact hcs.no_record
  | minus hcs => exact ⟨by simp, hcs.no_record.2⟩

/-- The text of a record, and no other, begins with a brace. -/
theorem Spells.head_record {d : Dialect} {cs rest : List Char} {v : Value}
    (h : Spells d cs (.value v) rest) :
    cs.head? = some '\x7b' ↔ ∃ fs, v = .record fs := by
  cases h with
  | text | emptyList | list | emptyRecord | record => simp
  | number hcs =>
    obtain ⟨hhead, hrecord⟩ := hcs.no_record
    simp [hhead, hrecord]
  | word hw =>
    obtain ⟨hhead, hrecord⟩ := word_ne_record hw
    obtain ⟨c, behind, rfl, -⟩ := word_begins hw
    rw [List.head?_cons] at hhead
    simp [hhead, hrecord]

/-! ## The standard -/

theorem Joined.alone_allowed {lone : Prop} {us : List Nat} {cs : List Char}
    (h : Joined lone us cs) : Joined True us cs := by
  induction h with
  | nil => exact .nil
  | scalar hhigh hlow _ ih => exact .scalar hhigh hlow ih
  | pair hu hv _ ih => exact .pair hu hv ih
  | alone _ hu _ ih => exact .alone trivial hu ih

theorem StringText.standard {d : Dialect} {cs rest : List Char} {s : String}
    (h : StringText d cs s rest) : StringText .standard cs s rest := by
  obtain ⟨us, hcodes, hjoined⟩ := h
  exact ⟨us, hcodes, hjoined.alone_allowed⟩

theorem Unsigned.standard {d : Dialect} {negative : Bool} {cs rest : List Char} {v : Value}
    (h : Unsigned d negative cs v rest) : Unsigned .standard negative cs v rest := by
  obtain ⟨hwhole, hfraction, hexponent, -⟩ := h
  exact .parts hwhole hfraction hexponent fun _ _ => trivial

/-- **Every dialect is within the standard.** -/
theorem Spells.standard {d : Dialect} {cs rest : List Char} {part : Part}
    (h : Spells d cs part rest) : Spells .standard cs part rest := by
  induction h with
  | text hcs => exact .text hcs.standard
  | number hcs =>
    cases hcs with
    | plus hcs => exact .number (.plus hcs.standard)
    | minus hcs => exact .number (.minus hcs.standard)
  | word hw => exact .word hw
  | emptyList hblanks => exact .emptyList hblanks
  | list hblanks _ ih => exact .list hblanks ih
  | emptyRecord hblanks => exact .emptyRecord hblanks
  | record hblanks _ ih => exact .record hblanks ih
  | lastMember _ hblanks ih => exact .lastMember ih hblanks
  | nextMember _ hblanks hnext _ ih ihrest => exact .nextMember ih hblanks hnext ihrest
  | lastField hname hcolon hfront _ hblanks ih =>
    exact .lastField hname.standard hcolon hfront ih hblanks
  | nextField hname hcolon hfront _ hblanks hnext _ ih ihrest =>
    exact .nextField hname.standard hcolon hfront ih hblanks hnext ihrest

theorem Document.standard {d : Dialect} {cs : List Char} {v : Value} (h : Document d cs v) :
    Document .standard cs v := by
  obtain ⟨front, behind, hfront, hvalue, hbehind⟩ := h
  exact ⟨front, behind, hfront, hvalue.standard, hbehind⟩

end TableExplorer.Json
