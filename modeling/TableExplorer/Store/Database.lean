import TableExplorer.Store.Affinity

/-!
# Databases

A database holds tables and views. A table has named columns with declared types and rows of
cells; a view shows all columns and rows of a table under another name. Names of tables and views
are found without regard to the case of ASCII letters.
-/

namespace TableExplorer.Store

/-- A column as it is declared. -/
structure ColumnDef where
  name : String
  declared : String
  deriving DecidableEq, Repr

def ColumnDef.affinity (c : ColumnDef) : Affinity := .ofDeclared c.declared

/-- A table: its columns, and its rows in the order in which they came. -/
structure Table where
  name : String
  columns : List ColumnDef
  rows : List (List Cell) := []
  deriving DecidableEq, Repr

/-- A view of all columns of another table. -/
structure View where
  name : String
  base : String
  deriving DecidableEq, Repr

/-- Tables and views, in the order of their creation. -/
structure Database where
  tables : List Table := []
  views : List View := []
  deriving DecidableEq, Repr

/-- Whether two names mean the same table. -/
def sameName (a b : String) : Bool := Text.asciiLowered a = Text.asciiLowered b

/-- Write scalars into the columns of a table. -/
def Table.rowOf (t : Table) (values : List Scalar) : List Cell :=
  t.columns.mapIdx fun i c => c.affinity.store (.ofScalar ((values[i]?).getD .null))

def Table.insert (t : Table) (rows : List (List Scalar)) : Table :=
  { t with rows := t.rows ++ rows.map t.rowOf }

namespace Database

/-! ## Changes -/

/-- Create a table with rows. -/
def create (db : Database) (name : String) (columns : List ColumnDef)
    (rows : List (List Scalar)) : Database :=
  { db with tables := db.tables ++ [Table.insert { name, columns } rows] }

/-- Change the tables of a name. -/
def updateTable (db : Database) (name : String) (f : Table → Table) : Database :=
  { db with tables := db.tables.map fun t => if sameName t.name name then f t else t }

/-- Add rows to the table of a name. -/
def insert (db : Database) (name : String) (rows : List (List Scalar)) : Database :=
  db.updateTable name fun t => t.insert rows

def createView (db : Database) (name base : String) : Database :=
  { db with views := db.views ++ [{ name, base }] }

/-- Add a column, which is null in the rows that are there. -/
def addColumn (db : Database) (name : String) (column : ColumnDef) : Database :=
  db.updateTable name fun t =>
    { t with columns := t.columns ++ [column], rows := t.rows.map fun r => r ++ [.null] }

def drop (db : Database) (name : String) : Database :=
  { tables := db.tables.filter fun t => !sameName t.name name
    views := db.views.filter fun v => !sameName v.name name }

/-! ## Reading -/

/-- What a name stands for: nothing, a view whose base is gone, or columns and rows. -/
inductive Found
  | nothing
  | baseMissing (base : String)
  | relation (columns : List ColumnDef) (rows : List (List Cell))
  deriving DecidableEq, Repr

/-- The table or view of a name. A view may show another view, so that as many steps may be needed
as there are views. -/
def findWithin (db : Database) : (steps : Nat) → (name : String) → Found
  | 0, _ => .nothing
  | steps + 1, name =>
    match db.tables.find? fun t => sameName t.name name with
    | some t => .relation t.columns t.rows
    | none =>
      match db.views.find? fun v => sameName v.name name with
      | none => .nothing
      | some v =>
        match db.findWithin steps v.base with
        | .nothing => .baseMissing v.base
        | found => found

def find (db : Database) (name : String) : Found := db.findWithin (db.views.length + 1) name

/-- The names of all tables and views, each once, in code point order. -/
def names (db : Database) : List String :=
  ((db.tables.map Table.name ++ db.views.map View.name).eraseDups).mergeSort
    fun a b => !decide (b < a)

end Database

end TableExplorer.Store
