import TableExplorer.DataSource.Basic
import TableExplorer.Text.Quoted

/-!
# Scripted data sources

A stand-in for a database whose answers are laid down beforehand, and which records the calls it
gets. Requests are answered from a list in turn, or, where a total is given, from a table of that
many rows; rules come first. Lookups are answered from fixed rows.
-/

namespace TableExplorer.Scripted

/-- A failure by the name of its kind. A missing key is reported as the key in quotes. -/
def failure (kind : String) (text : Option String) : Failure :=
  if kind = "DataSourceError" then .ofSource (text.getD "")
  else if kind = "KeyError" then { kind := .other kind, text := (text.map Text.quoted).getD "" }
  else { kind := .other kind, text := text.getD "" }

/-- An answer that is laid down: a value or a failure. -/
abbrev Answer (α : Type) := Except Failure α

/-- A rule for requests of a certain start or size, which applies so many times. -/
structure Rule where
  start : Option Int := none
  minLimit : Option Int := none
  times : Option Nat := none
  answer : Answer Response

/-- A table of `total` rows that are numbered from zero; one column may repeat a list of values. -/
structure Generated where
  total : Int
  foreignColumn : Option (String × List Value) := none
  rules : List Rule := []

inductive Call
  | query (table : String) (start limit : Int) (countExact : Bool)
  | lookup (request : LookupRequest)
  | columns (table : String)
  | listTables
  deriving DecidableEq, Repr

/-- The script and the record of a source. -/
structure Script where
  queries : Answer (List (Answer Response)) := .ok []
  lookups : Answer (Dict (Answer (List Row))) := .ok []
  columns : Answer (Dict (Answer (List ColumnMeta))) := .ok []
  tables : Answer (List String) := .ok []
  generated : Option Generated := none
  calls : List Call := []

/-- Forget the calls recorded so far. -/
def Script.forgetCalls (s : Script) : Script := { s with calls := [] }

def Generated.rows (g : Generated) (range : RowRange) : List Row :=
  let first := max 0 range.start
  let last := min range.last (g.total - 1)
  (List.range (last - first + 1).toNat).map fun (k : Nat) =>
    let i : Nat := first.toNat + k
    let base : Row := [("id", .text (Nat.repr i))]
    match g.foreignColumn with
    | none => base
    | some (column, values) =>
      if values.isEmpty then base
      else Dict.insert base column ((values[i % values.length]?).getD .null)

def Rule.applies (r : Rule) (range : RowRange) : Bool :=
  (r.start.all fun s => s == range.start) && (r.minLimit.all fun m => decide (m ≤ range.limit)) &&
    r.times.all fun t => decide (0 < t)

/-- The answer of the first rule that applies, and the rules with one use of it gone. -/
def applyRules (range : RowRange) : List Rule → Option (Answer Response) × List Rule
  | [] => (none, [])
  | r :: rest =>
    if r.applies range then
      (some r.answer, { r with times := r.times.map fun t => t - 1 } :: rest)
    else
      let (answer, rest) := applyRules range rest
      (answer, r :: rest)

def query (request : Request) (s : Script) : Except Failure Response × Script :=
  let range := request.range.getD { start := 0, last := -1 }
  let s := { s with
    calls := s.calls ++ [Call.query request.table range.start range.limit request.countExact] }
  match s.generated with
  | some g =>
    let (answer, rules) := applyRules range g.rules
    let s := { s with generated := some { g with rules } }
    (answer.getD (.ok { rows := g.rows range }), s)
  | none =>
    match s.queries with
    | .error f => (.error f, s)
    | .ok [] => (.ok {}, s)
    | .ok (answer :: rest) => (answer, { s with queries := .ok rest })

/-- Answer a lookup from the rows of its table. -/
def lookup (request : LookupRequest) (s : Script) : Except Failure (List Row) × Script :=
  let s := { s with calls := s.calls ++ [Call.lookup request] }
  let answer : Answer (List Row) := match s.lookups with
    | .error f => .error f
    | .ok tables => (Dict.get? tables request.table).getD (.ok [])
  (answer.map fun rows =>
    match request.ids with
    | none => rows
    | some ids => rows.filter fun row =>
        ids.contains ((Dict.get? row request.idField).getD .null).display, s)

def describe (table : String) (s : Script) : Except Failure (List ColumnMeta) × Script :=
  let s := { s with calls := s.calls ++ [Call.columns table] }
  (match s.columns with
    | .error f => .error f
    | .ok tables => (Dict.get? tables table).getD (.ok []), s)

def listTables (s : Script) : Except Failure (List String) × Script :=
  (s.tables, { s with calls := s.calls ++ [Call.listTables] })

/-- The data source that follows a script. -/
def source : DataSource Script := { query, describe, lookup, listTables }

end TableExplorer.Scripted
