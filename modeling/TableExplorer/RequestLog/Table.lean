import TableExplorer.Json.Reader
import TableExplorer.Store.Cell

/-!
# The log of requests

One entry is kept for each request that is worth it: when it came, what was asked, and how it
ended. Entries are numbered from one on. A listing shows the entries of the last hours, the latest
first; it may be restricted to errors, and to paths that match a beginning. Paths are matched by
the patterns of the store, so that a percent sign or an underscore in the beginning stands for
other characters and the case of ASCII letters does not matter. A pattern that is too long for the
store is refused where there is a path to be matched.

Times are in microseconds. The table of entries may be absent; then nothing can be kept or listed.
It may also be there to be read but refuse to be written to, as a locked one does.

An entry keeps the error of its answer: what the JSON object in the body says under `error`, or,
where that says nothing, under `detail`. A body that is no such object has none, and bodies above a
certain size are not looked into.
-/

namespace TableExplorer.RequestLog

/-- What is kept of a request. -/
structure Entry where
  id : Nat
  time : Int
  method : String
  path : String
  status : Nat
  clientIp : Option String := none
  requestBody : Option String := none
  error : Option String := none
  applicationId : Option String := none
  deriving DecidableEq, Repr

/-- The entries, if there is a table for them, and whether it refuses further ones. -/
structure Table where
  entries : Option (List Entry) := some []
  refuses : Bool := false
  deriving DecidableEq, Repr

def nextId (entries : List Entry) : Nat := (entries.map Entry.id).foldl max 0 + 1

/-- Keep an entry under the next number; where there is no table, or one that refuses it, it is
lost. -/
def Table.add (t : Table) (e : Entry) : Table :=
  if t.refuses then t
  else { t with entries := t.entries.map fun es => es ++ [{ e with id := nextId es }] }

def Table.drop (t : Table) : Table := { t with entries := none }

/-! ## Listings -/

/-- What a listing is restricted to. -/
structure Selection where
  hours : Int := 24
  pathStart : Option String := none
  errorsOnly : Bool := false
  deriving DecidableEq, Repr

def microsecondsPerHour : Int := 3600 * 1000000

/-- The least status of an error. -/
def leastErrorStatus : Nat := 400

/-- Whether a path matches a beginning; no beginning and the empty one match every path. -/
def startMatches (start : Option String) (path : String) : Bool :=
  match start with
  | none => true
  | some s =>
    s.isEmpty || Store.Cell.isLike (.text path) (.text (s ++ "%")) == some true

/-- Whether an entry is of the last hours. -/
def Selection.isRecent (s : Selection) (now : Int) (e : Entry) : Bool :=
  decide (now - s.hours * microsecondsPerHour ≤ e.time)

/-- Whether an entry belongs to a listing. -/
def Selection.includes (s : Selection) (now : Int) (e : Entry) : Bool :=
  s.isRecent now e && startMatches s.pathStart e.path &&
    (!s.errorsOnly || decide (leastErrorStatus ≤ e.status))

/-- Whether the store refuses to match the paths of a listing: the pattern is too long, and there is
an entry of the last hours to match it with. -/
def Selection.isRefused (s : Selection) (now : Int) (entries : List Entry) : Bool :=
  match s.pathStart with
  | none => false
  | some start =>
    !start.isEmpty && decide (Store.maxPatternSize < (start ++ "%").utf8ByteSize) &&
      entries.any (s.isRecent now)

/-- The entries of a listing, the latest first; of two entries of one time the later one. -/
def Selection.list (s : Selection) (now : Int) (entries : List Entry) : List Entry :=
  (entries.reverse.filter (s.includes now)).mergeSort fun a b => decide (b.time ≤ a.time)

def Selection.page (s : Selection) (now : Int) (offset limit : Nat) (entries : List Entry) :
    List Entry :=
  ((s.list now entries).drop offset).take limit

def Selection.count (s : Selection) (now : Int) (entries : List Entry) : Nat :=
  entries.countP (s.includes now)

def find? (entries : List Entry) (id : Int) : Option Entry :=
  entries.find? fun e => (e.id : Int) == id

/-! ## The error of an answer -/

/-- The largest body, in octets, that is looked into. -/
def maxInspectedBody : Nat := 1024 * 1024

/-- The fields under which an answer tells its error, in order. -/
def errorFields : List String := ["error", "detail"]

/-- The error that an object tells. -/
def errorOfFields (fields : Dict Value) : Option String :=
  (errorFields.findSome? fun name =>
    match Dict.get? fields name with
    | some v => if v.isTruthy then some v else none
    | none => none).map Value.display

/-- The error in the body of an answer, where JSON is read down to a limit of nesting. A body that
is nested deeper makes the search fail. -/
def errorText (limit : Nat) (body : ByteArray) : Except Json.Refusal (Option String) :=
  if body.size = 0 || maxInspectedBody < body.size then .ok none
  else match Text.decodeDocument? body with
    | none => .ok none
    | some s =>
      match Json.readWithin limit s with
      | .ok (.record fields) => .ok (errorOfFields fields)
      | .ok _ => .ok none
      | .error (.fault _) => .ok none
      | .error .tooDeep => .error .tooDeep

end TableExplorer.RequestLog
