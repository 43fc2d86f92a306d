import TableExplorer.Text.Characters

/-!
# Filter operators

The eleven comparisons that a user can pick for a filter, their names on the wire and their
labels, and which of them the columns of a type allow. The type of a column is known by its
declared name, which falls into one of six categories.
-/

namespace TableExplorer

/-- A comparison that a user can pick for a filter. -/
inductive Operator
  | eq
  | neq
  | gt
  | gte
  | lt
  | lte
  | like
  | ilike
  | isNull
  | isNotNull
  | oneOf
  deriving DecidableEq, Repr

namespace Operator

def all : List Operator :=
  [eq, neq, gt, gte, lt, lte, like, ilike, isNull, isNotNull, oneOf]

/-- The name on the wire. -/
def name : Operator → String
  | eq => "eq"
  | neq => "neq"
  | gt => "gt"
  | gte => "gte"
  | lt => "lt"
  | lte => "lte"
  | like => "like"
  | ilike => "ilike"
  | isNull => "is_null"
  | isNotNull => "is_not_null"
  | oneOf => "in"

/-- What the user reads. -/
def label : Operator → String
  | eq => "="
  | neq => "!="
  | gt => ">"
  | gte => ">="
  | lt => "<"
  | lte => "<="
  | like => "Contains"
  | ilike => "Contains (ignore case)"
  | isNull => "Is empty"
  | isNotNull => "Is not empty"
  | oneOf => "In list"

def ofName? (s : String) : Option Operator := all.find? fun op => op.name == s

/-- Whether an operator compares with a value: all but the null tests do. -/
def takesValue : Operator → Bool
  | isNull => false
  | isNotNull => false
  | _ => true

end Operator

/-! ## Categories of column types -/

/-- What the operators of a column depend on. -/
inductive TypeCategory
  | text
  | number
  | date
  | boolean
  | uuid
  | other
  deriving DecidableEq, Repr

namespace TypeCategory

def all : List TypeCategory := [text, number, date, boolean, uuid, other]

/-- The name on the wire. -/
def name : TypeCategory → String
  | text => "text"
  | number => "number"
  | date => "date"
  | boolean => "boolean"
  | uuid => "uuid"
  | other => "default"

/-- The operators of the ordered categories. -/
def ordered : List Operator := [.eq, .neq, .gt, .gte, .lt, .lte, .isNull, .isNotNull]

def operators : TypeCategory → List Operator
  | text => [.eq, .neq, .like, .ilike, .isNull, .isNotNull, .oneOf]
  | number => ordered
  | date => ordered
  | boolean => [.eq, .isNull, .isNotNull]
  | uuid => [.eq, .neq, .isNull, .isNotNull]
  | other => [.eq, .neq, .like, .ilike, .isNull, .isNotNull]

/-- The words that make a type name a number. -/
def numberWords : List String := ["int", "numeric", "float", "decimal", "double", "real"]

/-- The category of a declared type name, in any case. -/
def ofTypeName (typeName : String) : TypeCategory :=
  let t := Text.lowered typeName
  if numberWords.any fun w => Text.occursIn w t then number
  else if Text.occursIn "timestamp" t || Text.occursIn "date" t then date
  else if t = "boolean" || t = "bool" then boolean
  else if t = "uuid" then uuid
  else if t = "text" || Text.occursIn "char" t then text
  else other

end TypeCategory

/-! ## The catalog -/

/-- What the client shows in its operator menus. -/
structure OperatorCatalog where
  labels : List (Operator × String)
  byType : List (TypeCategory × List Operator)
  withoutValue : List Operator

def OperatorCatalog.standard : OperatorCatalog :=
  { labels := Operator.all.map fun op => (op, op.label)
    byType := TypeCategory.all.map fun c => (c, c.operators)
    withoutValue := Operator.all.filter fun op => !op.takesValue }

end TableExplorer
