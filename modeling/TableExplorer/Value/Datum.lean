import TableExplorer.Calendar.Basic
import TableExplorer.Double.Decimal
import TableExplorer.Value.Basic

/-!
# What a database hands over

A cell read through a typed column is a `Datum`: a scalar, a date, a time, an identifier, a
decimal numeral or a JSON document. `Datum.toValue` normalises it to a value of an answer, and
`guessType` names a column type from one such value, for tables that cannot be described
otherwise.
-/

namespace TableExplorer

/-- A value as a typed column yields it. -/
inductive Datum
  | scalar (s : Scalar)
  | date (d : Date)
  | time (t : TimeOfDay)
  | dateTime (d : DateTime)
  | uuid (digits : List Char)
  | decimal (d : Double)
  | document (v : Value)
  deriving Repr, Inhabited

/-! ## Identifiers -/

/-- Remove every occurrence of a word. -/
def Text.without (word : String) (s : String) : String := String.intercalate "" (s.splitOn word)

/-- The 32 hexadecimal digits of an identifier in any of its spellings, in lower case. -/
def uuidDigits (s : String) : List Char :=
  let s := Text.without "uuid:" (Text.without "urn:" s)
  let cs := Text.trimBoth (fun c => c = '\x7b' || c = '\x7d') s.toList
  (cs.filter (· != '-')).map Text.asciiLower

/-- The digits of an identifier in groups of 8, 4, 4, 4 and 12. -/
def uuidText (digits : List Char) : String :=
  let part (start length : Nat) := String.ofList ((digits.drop start).take length)
  String.intercalate "-" [part 0 8, part 8 4, part 12 4, part 16 4, part 20 12]

/-! ## Normal form -/

/-- A datum as a value of an answer. -/
def Datum.toValue : Datum → Value
  | .scalar s => s.toValue
  | .date d => .text d.text
  | .time t => .text t.text
  | .dateTime d => .text d.text
  | .uuid digits => .text (uuidText digits)
  | .decimal d => .real d
  | .document v => v

def Datum.isNull : Datum → Bool
  | .scalar .null => true
  | .document .null => true
  | _ => false

/-! ## Guessing a type -/

/-- Whether the front of a text is made of characters of the given classes, one each. -/
def frontMatches : List (Char → Bool) → List Char → Bool
  | [], _ => true
  | _ :: _, [] => false
  | p :: ps, c :: cs => p c && frontMatches ps cs

def isDigit (c : Char) : Bool := (Text.digitValue? c).isSome

def isHexDigit (c : Char) : Bool :=
  let c := Text.asciiLower c
  Text.isAsciiDigit c || ('a' ≤ c && c ≤ 'f')

/-- `YYYY-MM-DD`, in digits of any script. -/
def datePattern : List (Char → Bool) :=
  List.replicate 4 isDigit ++ [(· == '-')] ++ List.replicate 2 isDigit ++ [(· == '-')] ++
    List.replicate 2 isDigit

/-- The first twelve digits of an identifier, in groups of 8 and 4. -/
def uuidPattern : List (Char → Bool) :=
  List.replicate 8 isHexDigit ++ [(· == '-')] ++ List.replicate 4 isHexDigit

/-- The column type that a sample value suggests. -/
def guessType : Value → String
  | .bool _ => "boolean"
  | .int _ => "numeric"
  | .real _ => "numeric"
  | .text s =>
    if frontMatches datePattern s.toList then "timestamp with time zone"
    else if frontMatches uuidPattern s.toList then "uuid"
    else "text"
  | _ => "text"

end TableExplorer
