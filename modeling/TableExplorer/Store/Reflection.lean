import TableExplorer.Registry.Joins
import TableExplorer.Store.ColumnType
import TableExplorer.Store.Database

/-!
# Reflection

Before a table is queried its columns are read from the database and remembered under the name
that was asked for, until the memory is cleared: a later change of the table does not show. A
fault of a query is reported as a text (`QueryFault.message`).
-/

namespace TableExplorer.Store

/-- A table as it was when it was first asked for: its name in the question and its columns. -/
structure Reflection where
  name : String
  columns : List (String × ColumnType)
  deriving DecidableEq, Repr

/-- Why a query is refused. -/
inductive QueryFault
  | unknownTable (name : String)
  | unknownColumn (source column : String)
  | embeddedTwice (relation base : String)
  | noRelationship (base relation hint : String)
  | unsupportedOperator (operator : String)
  | unbindable (fault : ColumnType.BindFault)
  | tableGone (name : String)
  | baseGone (name : String)
  | columnGone (source column : String)
  | ambiguousName (name : String)
  deriving DecidableEq, Repr

def QueryFault.message : QueryFault → String
  | unknownTable name => name
  | unknownColumn source column => "column " ++ source ++ "." ++ column ++ " does not exist"
  | embeddedTwice relation base =>
    "could not embed '" ++ relation ++ "' more than once in '" ++ base ++ "'"
  | noRelationship base relation hint =>
    "could not find a relationship between '" ++ base ++ "' and '" ++ relation ++ "' using '" ++
      hint ++ "'"
  | unsupportedOperator operator => "unsupported operator '" ++ operator ++ "'"
  | unbindable fault => fault.message
  | tableGone name => "no such table: " ++ name
  | baseGone name => "no such table: main." ++ name
  | columnGone source column => "no such column: " ++ source ++ "." ++ column
  | ambiguousName name =>
    "Ambiguous column name '" ++ name ++ "' in result set column descriptions"

/-- The text under which a fault is reported: its wording without blanks at the ends. -/
def QueryFault.report (f : QueryFault) : String := Text.strip f.message

/-- The remembered tables. -/
abbrev Memory := Dict Reflection

/-- A table or view of the database, by columns and rows. -/
def Database.relation (db : Database) (name : String) (absent : QueryFault) :
    Except QueryFault (List ColumnDef × List (List Cell)) :=
  match db.find name with
  | .nothing => .error absent
  | .baseMissing base => .error (.baseGone base)
  | .relation columns rows => .ok (columns, rows)

/-- Read the columns of a table from the database. -/
def Database.reflect (db : Database) (name : String) : Except QueryFault Reflection :=
  (db.relation name (.unknownTable name)).map fun (columns, _) =>
    { name, columns := columns.map fun c => (c.name, .ofDeclared c.declared) }

/-- A step that may fail and keeps what it has learned about tables in either case. -/
abbrev Reflecting := ExceptT QueryFault (StateM Memory)

/-- The reflection of a table, from memory or from the database. -/
def reflect (db : Database) (name : String) : Reflecting Reflection := do
  match Dict.get? (← get) name with
  | some r => return r
  | none =>
    match db.reflect name with
    | .ok r =>
      modify fun memory => Dict.insert memory name r
      return r
    | .error f => throw f

/-- The type of a column; `source` is the name of the table in an error text. -/
def Reflection.column (r : Reflection) (source name : String) : Except QueryFault ColumnType :=
  match Dict.get? r.columns name with
  | some t => .ok t
  | none => .error (.unknownColumn source name)

end TableExplorer.Store
