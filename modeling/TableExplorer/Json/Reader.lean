import TableExplorer.Double.Decimal
import TableExplorer.Text.Utf
import TableExplorer.Value.Basic

/-!
# Reading JSON

A reader of the JSON grammar that also takes the words `NaN`, `Infinity` and `-Infinity` as
numbers. A number without fraction and exponent is an integer of any size, up to 4300 digits; any
other is a double. Control characters inside strings are refused. A fault names its cause and the
position, in characters, at which the document stops being JSON.

`read` takes documents of any nesting. A machine has room for some nesting only, and `readWithin`
gives up on a document that is nested deeper before it is read or found to be no JSON.
-/

namespace TableExplorer.Json

/-- Why a text is not a JSON document. -/
inductive Cause
  | expectedValue
  | expectedName
  | expectedColon
  | expectedComma
  | unterminatedString
  | invalidControl
  | invalidEscape
  | invalidUnicodeEscape
  | extraData
  | tooManyDigits
  deriving DecidableEq, Repr

/-- A cause and the number of characters that are left where it arises. -/
structure Fault where
  cause : Cause
  remaining : Nat
  deriving DecidableEq, Repr

/-- What a step of the reader gives: a result and the characters after it. -/
abbrev Step (α : Type) := Except Fault (α × List Char)

def failAt {α : Type} (cause : Cause) (rest : List Char) : Except Fault α :=
  .error { cause, remaining := rest.length }

/-- The white space of JSON. -/
def isSpace (c : Char) : Bool := c = ' ' || c = '\t' || c = '\n' || c = '\r'

def skipSpace (cs : List Char) : List Char := cs.dropWhile isSpace

/-! ## Strings -/

def hexDigit? (c : Char) : Option Nat :=
  if '0' ≤ c ∧ c ≤ '9' then some (c.toNat - 48)
  else if 'a' ≤ c ∧ c ≤ 'f' then some (c.toNat - 87)
  else if 'A' ≤ c ∧ c ≤ 'F' then some (c.toNat - 55)
  else none

/-- The number that four hexadecimal digits spell. -/
def hex4? (a b c d : Char) : Option Nat := do
  return ((← hexDigit? a) * 16 + (← hexDigit? b)) * 256 + (← hexDigit? c) * 16 + (← hexDigit? d)

/-- The character of an escape of one letter. -/
def shortEscape? (c : Char) : Option Char :=
  match c with
  | '"' => some '"'
  | '\\' => some '\\'
  | '/' => some '/'
  | 'b' => some '\x08'
  | 'f' => some '\x0c'
  | 'n' => some '\n'
  | 'r' => some '\r'
  | 't' => some '\t'
  | _ => none

/-- The code points of a string up to its closing quote, the surrogates of escapes not yet
joined; `opening` is the number of characters left at the opening quote. -/
def stringCodes (opening : Nat) : List Char → Step (List Nat)
  | [] => .error { cause := .unterminatedString, remaining := opening }
  | '"' :: rest => .ok ([], rest)
  | ['\\'] => .error { cause := .unterminatedString, remaining := opening }
  | '\\' :: 'u' :: a :: b :: c :: d :: e :: rest =>
    match hex4? a b c d with
    | none => failAt .invalidUnicodeEscape ('u' :: a :: b :: c :: d :: e :: rest)
    | some n =>
      match stringCodes opening (e :: rest) with
      | .ok (codes, rest) => .ok (n :: codes, rest)
      | .error f => .error f
  | '\\' :: c :: rest =>
    if c = 'u' then failAt .invalidUnicodeEscape (c :: rest)
    else match shortEscape? c with
      | none => failAt .invalidEscape ('\\' :: c :: rest)
      | some e =>
        match stringCodes opening rest with
        | .ok (codes, rest) => .ok (e.toNat :: codes, rest)
        | .error f => .error f
  | c :: rest =>
    if c.toNat < 0x20 then failAt .invalidControl (c :: rest)
    else match stringCodes opening rest with
      | .ok (codes, rest) => .ok (c.toNat :: codes, rest)
      | .error f => .error f

/-- A string, from the character after its opening quote. -/
def stringBody (cs : List Char) : Step String :=
  match stringCodes (cs.length + 1) cs with
  | .ok (codes, rest) => .ok (String.ofList (Text.pairUnits codes), rest)
  | .error f => .error f

/-! ## Numbers -/

def maxIntegerDigits : Nat := 4300

/-- The whole part at the front of a text: a zero alone, or digits that begin with another one. -/
def spanWhole : List Char → List Nat × List Char
  | '0' :: rest => ([0], rest)
  | cs => Text.spanDigits cs

/-- A fraction of at least one digit, or nothing. -/
def spanFraction? : List Char → Option (List Nat) × List Char
  | '.' :: cs =>
    match Text.spanDigits cs with
    | ([], _) => (none, '.' :: cs)
    | (ds, rest) => (some ds, rest)
  | cs => (none, cs)

/-- An exponent of at least one digit, or nothing. -/
def spanExponent? (cs : List Char) : Option Int × List Char :=
  match cs with
  | [] => (none, [])
  | c :: rest =>
    if c = 'e' || c = 'E' then
      let (negative, digits) := Text.splitSign rest
      match Text.spanDigits digits with
      | ([], _) => (none, cs)
      | (ds, rest) => (some (Text.signed negative (Text.ofDigits ds)), rest)
    else (none, cs)

/-- A number behind its sign; `start` is the text from the sign on. -/
def number (start : List Char) (negative : Bool) (cs : List Char) : Step Value :=
  match spanWhole cs with
  | ([], _) => failAt .expectedValue start
  | (whole, rest) =>
    let (fraction, rest) := spanFraction? rest
    let (exponent, rest) := spanExponent? rest
    match fraction, exponent with
    | none, none =>
      if maxIntegerDigits < whole.length then failAt .tooManyDigits start
      else .ok (.int (Text.signed negative (Text.ofDigits whole)), rest)
    | _, _ =>
      .ok (.real (Decimal.ofParts negative whole (fraction.getD []) (exponent.getD 0)).toDouble,
        rest)

/-- The values that are written as words. -/
def words : List (List Char × Value) :=
  [("null".toList, .null), ("true".toList, .bool true), ("false".toList, .bool false),
    ("NaN".toList, .real .nan), ("Infinity".toList, .real (.infinite false)),
    ("-Infinity".toList, .real (.infinite true))]

/-- The word at the front of a text, and the rest. -/
def word? (cs : List Char) : Option (Value × List Char) :=
  words.findSome? fun (w, v) => if w.isPrefixOf cs then some (v, cs.drop w.length) else none

/-! ## Values -/

mutual

/-- A value at the front of a text that begins with no white space. The steps are bounded by
`fuel`, which decreases with every token. -/
def value : (fuel : Nat) → List Char → Step Value
  | 0, cs => failAt .expectedValue cs
  | _, [] => failAt .expectedValue []
  | fuel + 1, c :: rest =>
    if c = '"' then
      match stringBody rest with
      | .ok (s, rest) => .ok (.text s, rest)
      | .error f => .error f
    else if c = '\x7b' then
      match skipSpace rest with
      | '\x7d' :: rest => .ok (.record [], rest)
      | rest =>
        match fields fuel rest with
        | .ok (fs, rest) => .ok (.record (Dict.ofList fs), rest)
        | .error f => .error f
    else if c = '[' then
      match skipSpace rest with
      | ']' :: rest => .ok (.list [], rest)
      | rest =>
        match members fuel rest with
        | .ok (vs, rest) => .ok (.list vs, rest)
        | .error f => .error f
    else match word? (c :: rest) with
      | some found => .ok found
      | none =>
        if c = '-' then number (c :: rest) true rest else number (c :: rest) false (c :: rest)

/-- The fields of an object from the first name on, up to its closing brace. -/
def fields : (fuel : Nat) → List Char → Step (List (String × Value))
  | 0, cs => failAt .expectedName cs
  | fuel + 1, cs =>
    match cs with
    | '"' :: rest =>
      match stringBody rest with
      | .error f => .error f
      | .ok (name, rest) =>
        match skipSpace rest with
        | ':' :: rest =>
          match value fuel (skipSpace rest) with
          | .error f => .error f
          | .ok (v, rest) =>
            match skipSpace rest with
            | '\x7d' :: rest => .ok ([(name, v)], rest)
            | ',' :: rest =>
              match fields fuel (skipSpace rest) with
              | .ok (fs, rest) => .ok ((name, v) :: fs, rest)
              | .error f => .error f
            | rest => failAt .expectedComma rest
        | rest => failAt .expectedColon rest
    | _ => failAt .expectedName cs

/-- The members of an array from the first one on, up to its closing bracket. -/
def members : (fuel : Nat) → List Char → Step (List Value)
  | 0, cs => failAt .expectedValue cs
  | fuel + 1, cs =>
    match value fuel cs with
    | .error f => .error f
    | .ok (v, rest) =>
      match skipSpace rest with
      | ']' :: rest => .ok ([v], rest)
      | ',' :: rest =>
        match members fuel (skipSpace rest) with
        | .ok (vs, rest) => .ok (v :: vs, rest)
        | .error f => .error f
      | rest => failAt .expectedComma rest

end

/-! ## Documents -/

/-- Why a document cannot be read, and at which character. -/
structure DocumentFault where
  cause : Cause
  position : Nat
  deriving DecidableEq, Repr

def Cause.message : Cause → String
  | expectedValue => "Expecting value"
  | expectedName => "Expecting property name enclosed in double quotes"
  | expectedColon => "Expecting ':' delimiter"
  | expectedComma => "Expecting ',' delimiter"
  | unterminatedString => "Unterminated string starting at"
  | invalidControl => "Invalid control character at"
  | invalidEscape => "Invalid \\escape: "
  | invalidUnicodeEscape => "Invalid \\uXXXX escape"
  | extraData => "Extra data"
  | tooManyDigits => "Exceeds the limit (4300 digits) for integer string conversion"

/-- The wording of a fault in a document: cause, line, column and position. -/
def DocumentFault.message (f : DocumentFault) (document : String) : String :=
  let before := document.toList.take f.position
  let line := before.count '\n' + 1
  let column := (before.reverse.takeWhile (· != '\n')).length + 1
  f.cause.message ++ ": line " ++ Nat.repr line ++ " column " ++ Nat.repr column ++ " (char " ++
    Nat.repr f.position ++ ")"

/-- Turn what is left into a position. -/
def Fault.locate (total : Nat) (f : Fault) : DocumentFault :=
  { cause := f.cause, position := total - f.remaining }

/-- Read a whole document: one value with white space around it. -/
def read (s : String) : Except DocumentFault Value :=
  let cs := s.toList
  match value (2 * cs.length + 2) (skipSpace cs) with
  | .error f => .error (f.locate cs.length)
  | .ok (v, rest) =>
    match skipSpace rest with
    | [] => .ok v
    | rest => .error { cause := .extraData, position := cs.length - rest.length }

/-! ## Nesting -/

/-- Where in a document a character stands. -/
inductive Place
  | outside
  | string
  | escape

/-- The most arrays and objects that are open at once in a text, from a place on at which `depth`
of them are. Brackets and braces in strings do not count. -/
def deepest : Place → (depth : Nat) → List Char → Nat
  | _, depth, [] => depth
  | .outside, depth, c :: cs =>
    if c = '"' then deepest .string depth cs
    else if c = '[' ∨ c = '\x7b' then deepest .outside (depth + 1) cs
    else if c = ']' ∨ c = '\x7d' then max depth (deepest .outside (depth - 1) cs)
    else deepest .outside depth cs
  | .string, depth, c :: cs =>
    if c = '"' then deepest .outside depth cs
    else deepest (if c = '\\' then .escape else .string) depth cs
  | .escape, depth, _ :: cs => deepest .string depth cs

/-- How deep a text is nested, as far as it is gone through before it is read or found to be no
JSON. -/
def nesting (s : String) : Nat :=
  match read s with
  | .ok _ => deepest .outside 0 s.toList
  | .error f => deepest .outside 0 (s.toList.take f.position)

/-- Why a document is not read where nesting has a limit. -/
inductive Refusal
  | fault (f : DocumentFault)
  | tooDeep
  deriving DecidableEq, Repr

/-- Read a whole document that is not nested deeper than a limit. -/
def readWithin (limit : Nat) (s : String) : Except Refusal Value :=
  if limit < nesting s then .error .tooDeep else (read s).mapError .fault

/-! ## Halves of surrogate pairs -/

/-- Whether a string in a text holds half of a surrogate pair. The text begins outside of
strings. -/
def stringsHoldHalf : (fuel : Nat) → List Char → Bool
  | 0, _ => false
  | _, [] => false
  | fuel + 1, c :: cs =>
    if c = '"' then
      match stringCodes 0 cs with
      | .ok (codes, rest) => Text.hasHalf codes || stringsHoldHalf fuel rest
      | .error _ => false
    else stringsHoldHalf fuel cs

/-- Whether a string of a document holds half of a surrogate pair. -/
def holdsHalf (s : String) : Bool := stringsHoldHalf s.length s.toList

end TableExplorer.Json
