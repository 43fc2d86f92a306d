import TableExplorer.Calendar.Reader
import TableExplorer.DataSource.Basic
import TableExplorer.Json.Reader
import TableExplorer.Json.Writer
import TableExplorer.Store.Cell
import TableExplorer.Value.Datum

/-!
# Column types

The declared type of a column is recognised as one of a number of types, perhaps with arguments. A
type decides how the column is described (`ColumnType.text`), how a value is bound for a
comparison with it (`ColumnType.bind`), and how its cells are read (`ColumnType.read`).
-/

namespace TableExplorer.Store

/-- The types that are told apart. -/
inductive TypeName
  | bigint
  | blob
  | boolean
  | char
  | date
  | datetime
  | double
  | doublePrecision
  | decimal
  | float
  | integer
  | json
  | numeric
  | real
  | smallint
  | text
  | time
  | timestamp
  | varchar
  | nvarchar
  | untyped
  deriving DecidableEq, Repr

/-- A type with its arguments. -/
structure ColumnType where
  name : TypeName
  args : List Nat := []
  deriving DecidableEq, Repr

namespace ColumnType

/-! ## Recognition -/

/-- The types by their declared names. -/
def knownNames : List (String × TypeName) :=
  [("BIGINT", .bigint), ("BLOB", .blob), ("BOOL", .boolean), ("BOOLEAN", .boolean),
    ("CHAR", .char), ("DATE", .date), ("DATE_CHAR", .date), ("DATETIME", .datetime),
    ("DATETIME_CHAR", .datetime), ("DOUBLE", .double), ("DOUBLE_PRECISION", .doublePrecision),
    ("DECIMAL", .decimal), ("FLOAT", .float), ("INT", .integer), ("INTEGER", .integer),
    ("JSON", .json), ("NUMERIC", .numeric), ("REAL", .real), ("SMALLINT", .smallint),
    ("TEXT", .text), ("TIME", .time), ("TIME_CHAR", .time), ("TIMESTAMP", .timestamp),
    ("VARCHAR", .varchar), ("NVARCHAR", .nvarchar)]

/-- The words that decide for a name that is not known, in order. -/
def wordRules : List (List String × TypeName) :=
  [(["INT"], .integer), (["CHAR", "CLOB", "TEXT"], .text), (["BLOB"], .untyped),
    (["REAL", "FLOA", "DOUB"], .real)]

/-- The type that a name stands for. -/
def nameOf (declared : String) : TypeName :=
  match Dict.get? knownNames declared with
  | some t => t
  | none =>
    if declared.isEmpty then .untyped
    else
      match wordRules.find? fun r => r.1.any fun w => Text.occursIn w declared with
      | some r => r.2
      | none => .numeric

def isNameChar (c : Char) : Bool :=
  c = ' ' || c = '_' || c.isAlphanum || 128 ≤ c.toNat

/-- The numbers in a text. -/
def numbersIn (cs : List Char) : List Nat :=
  let step (acc : List (List Nat)) (c : Char) : List (List Nat) :=
    match Text.asciiDigit? c, acc with
    | some d, run :: runs => (run ++ [d]) :: runs
    | some d, [] => [[d]]
    | none, acc => [] :: acc
  ((cs.foldl step []).reverse.filter fun run => !run.isEmpty).map Text.ofDigits

/-- The most arguments that a type takes. -/
def maxArgs : TypeName → Nat
  | .char => 1
  | .varchar => 1
  | .nvarchar => 1
  | .text => 1
  | .numeric => 2
  | .decimal => 2
  | _ => 0

/-- The type that a declaration stands for: the name up to the first character that belongs to
none, and the numbers in the parentheses behind it. Arguments that the type does not take are
dropped. -/
def ofDeclared (declared : String) : ColumnType :=
  let cs := declared.toList.map Text.asciiUpper
  let name := nameOf (String.ofList (cs.takeWhile isNameChar))
  match cs.dropWhile isNameChar with
  | '(' :: rest =>
    if rest.contains ')' then
      let args := numbersIn (rest.takeWhile (· != ')'))
      if args.length ≤ maxArgs name then { name, args } else { name }
    else { name }
  | _ => { name }

/-! ## Description -/

def word : TypeName → String
  | .bigint => "bigint"
  | .blob => "blob"
  | .boolean => "boolean"
  | .char => "char"
  | .date => "date"
  | .datetime => "datetime"
  | .double => "double"
  | .doublePrecision => "double precision"
  | .decimal => "decimal"
  | .float => "float"
  | .integer => "integer"
  | .json => "json"
  | .numeric => "numeric"
  | .real => "real"
  | .smallint => "smallint"
  | .text => "text"
  | .time => "time"
  | .timestamp => "timestamp"
  | .varchar => "varchar"
  | .nvarchar => "nvarchar"
  | .untyped => "nulltype"

/-- The text of a type: its word, with the arguments in parentheses. -/
def text (t : ColumnType) : String :=
  if t.args.isEmpty then word t.name
  else word t.name ++ "(" ++ String.intercalate ", " (t.args.map Nat.repr) ++ ")"

/-- The description of a column of a type. -/
def describe (t : ColumnType) (name : String) : ColumnMeta :=
  { name, dataType := t.text
    format := String.ofList (t.text.toList.takeWhile (· != '(')) }

/-! ## Binding -/

/-- Why a value cannot be compared with a column. -/
inductive BindFault
  | notNumber (shown : String)
  | tooLarge
  | notTruth (shown : String)
  | otherInteger (i : Int)
  | notDate
  | notDateTime
  | notTime
  | notOctets (kind : String)
  | notDocument
  deriving DecidableEq, Repr

def BindFault.message : BindFault → String
  | notNumber shown => "could not convert string to float: " ++ shown
  | tooLarge => "int too large to convert to float"
  | notTruth shown => "Not a boolean value: " ++ shown
  | otherInteger i => "Value " ++ Text.ofInt i ++ " is not None, True, or False"
  | notDate => "SQLite Date type only accepts Python date objects as input."
  | notDateTime =>
    "SQLite DateTime type only accepts Python datetime and date objects as input."
  | notTime => "SQLite Time type only accepts Python time objects as input."
  | notOctets kind => "memoryview: a bytes-like object is required, not '" ++ kind ++ "'"
  | notDocument => "Object of type bytes is not JSON serializable"

def kindWord : Scalar → String
  | .null => "NoneType"
  | .bool _ => "bool"
  | .int _ => "int"
  | .real _ => "float"
  | .text _ => "str"
  | .octets _ => "bytes"

def bindNumber : Scalar → Except BindFault Scalar
  | .bool b => .ok (.real (.ofInt (if b then 1 else 0)))
  | .int i =>
    match Double.ofInt i with
    | .infinite _ => .error .tooLarge
    | d => .ok (.real d)
  | .text s =>
    match Double.ofText? s with
    | some d => .ok (.real d)
    | none => .error (.notNumber (Text.quoted s))
  | .octets bs =>
    match Double.ofText? (String.ofList (bs.map fun b => Char.ofNat b.toNat)) with
    | some d => .ok (.real d)
    | none => .error (.notNumber (Text.quotedOctets bs))
  | s => .ok s

/-- A scalar as a truth value: what equals zero or one is one. -/
def bindTruth (s : Scalar) : Except BindFault Scalar :=
  let number : Option Int := match s with
    | .bool b => some (if b then 1 else 0)
    | .int i => some i
    | .real d => d.toInt?
    | _ => none
  if number = some 0 ∨ number = some 1 then .ok (.int (number.getD 0))
  else match s with
    | .int i => .error (.otherInteger i)
    | s => .error (.notTruth s.shown)

/-- A scalar as a JSON document in ASCII. -/
def bindDocument : Scalar → Except BindFault Scalar
  | .text s => .ok (.text (Json.renderAsciiText s))
  | .octets _ => .error .notDocument
  | s => .ok (.text (Json.render s.toValue))

/-- Bind a value for a comparison with a column of a type. Null stays null, but for documents,
where it is one. -/
def bind (t : ColumnType) (s : Scalar) : Except BindFault Cell :=
  if s = .null ∧ t.name ≠ .json then .ok .null
  else (match t.name with
    | .numeric => bindNumber s
    | .decimal => bindNumber s
    | .real => bindNumber s
    | .float => bindNumber s
    | .double => bindNumber s
    | .doublePrecision => bindNumber s
    | .boolean => bindTruth s
    | .date => .error .notDate
    | .datetime => .error .notDateTime
    | .timestamp => .error .notDateTime
    | .time => .error .notTime
    | .blob => match s with
      | .octets bs => .ok (.octets bs)
      | s => .error (.notOctets (kindWord s))
    | .json => bindDocument s
    | _ => .ok s).map Cell.ofScalar

/-! ## Reading -/

/-- Why a cell cannot be read. -/
inductive ReadFault
  | notNumber (kind : String)
  | calendar (fault : Calendar.Fault)
  | document (fault : Json.DocumentFault) (text : String)
  | undecodable
  deriving DecidableEq, Repr

/-- The failure that a fault of reading is. -/
def ReadFault.failure : ReadFault → Failure
  | notNumber kind => { kind := .wrongType, text := "must be real number, not " ++ kind }
  | calendar fault =>
    { kind := if fault = .notText then .wrongType else .badValue, text := fault.message }
  | document fault text => { kind := .badDocument, text := fault.message text }
  | undecodable => { kind := .badValue, text := "" }

/-- The places after the point to which decimals are rounded unless the type says otherwise. -/
def defaultPlaces : Nat := 10

/-- The places after the point to which the cells of a decimal column are rounded. -/
def places (t : ColumnType) : Nat := (t.args[1]?).getD defaultPlaces

/-- A double rounded to places after the point. -/
def roundPlaces (places : Nat) : Double → Double
  | .finite negative units =>
    ({ negative, digits := Double.fixed places units, exponent := -(places : Int) } :
      Decimal).toDouble
  | d => d

def readDecimal (t : ColumnType) : Cell → Except ReadFault Datum
  | .null => .ok (.scalar .null)
  | .int i => .ok (.decimal (roundPlaces t.places (.ofInt i)))
  | .real d => .ok (.decimal (roundPlaces t.places d))
  | .text _ => .error (.notNumber "str")
  | .blob _ => .error (.notNumber "bytes")

/-- Read a truth value: everything but zero and the empty is true. -/
def readTruth : Cell → Datum
  | .null => .scalar .null
  | .int i => .scalar (.bool (i != 0))
  | .real d => .scalar (.bool (!d.isZero))
  | .text s => .scalar (.bool (!s.isEmpty))
  | .blob bs => .scalar (.bool (!bs.isEmpty))

/-- Read a date or time. -/
def readCalendar {α : Type} (parse : String → Except Calendar.Fault α) (make : α → Datum) :
    Cell → Except ReadFault Datum
  | .null => .ok (.scalar .null)
  | .text s =>
    match parse s with
    | .ok a => .ok (make a)
    | .error f => .error (.calendar f)
  | _ => .error (.calendar .notText)

/-- Read a JSON document; a number is one as it is. -/
def readDocument : Cell → Except ReadFault Datum
  | .text s =>
    match Json.read s with
    | .ok v => .ok (.document v)
    | .error f => .error (.document f s)
  | .blob bs =>
    match Text.decodeDocument? ⟨bs.toArray⟩ with
    | none => .error .undecodable
    | some s =>
      match Json.read s with
      | .ok v => .ok (.document v)
      | .error f => .error (.document f s)
  | c => .ok (.scalar c.toScalar)

/-- Read a cell of a column of a type. -/
def read (t : ColumnType) (c : Cell) : Except ReadFault Datum :=
  match t.name with
  | .numeric => readDecimal t c
  | .decimal => readDecimal t c
  | .boolean => .ok (readTruth c)
  | .date => readCalendar Calendar.readDate .date c
  | .time => readCalendar Calendar.readTime .time c
  | .datetime => readCalendar Calendar.readDateTime .dateTime c
  | .timestamp => readCalendar Calendar.readDateTime .dateTime c
  | .json => readDocument c
  | _ => .ok (.scalar c.toScalar)

end ColumnType

end TableExplorer.Store
