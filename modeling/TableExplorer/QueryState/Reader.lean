import TableExplorer.QueryState.Basic
import TableExplorer.QueryState.Integer

/-!
# Reading query states

The document that a client sends becomes a query state, or is refused with all its complaints.
Every field has two spellings, the one on the wire and a plain one; the wire spelling wins where
both are present. Unknown fields are ignored, absent ones take their defaults, a filter or join
without an id gets a fresh one, an operator that says nothing means that none is picked, and a
null filter value is the empty text.

`QueryState.toValue` writes a state back with either spelling.
-/

namespace TableExplorer

/-! ## Field names -/

/-- The two spellings of a field. -/
structure FieldName where
  wire : String
  plain : String
  deriving DecidableEq, Repr

namespace FieldName

def id : FieldName := ⟨"id", "id"⟩
def table : FieldName := ⟨"table", "table"⟩
def selectedColumns : FieldName := ⟨"selectedColumns", "selected_columns"⟩
def filters : FieldName := ⟨"filters", "filters"⟩
def joins : FieldName := ⟨"joins", "joins"⟩
def orderBy : FieldName := ⟨"orderBy", "order_by"⟩
def orderDirection : FieldName := ⟨"orderDirection", "order_direction"⟩
def page : FieldName := ⟨"page", "page"⟩
def pageSize : FieldName := ⟨"pageSize", "page_size"⟩
def column : FieldName := ⟨"column", "column"⟩
def operator : FieldName := ⟨"operator", "operator"⟩
def value : FieldName := ⟨"value", "value"⟩
def fromTable : FieldName := ⟨"fromTable", "from_table"⟩
def fromColumn : FieldName := ⟨"fromColumn", "from_column"⟩
def toTable : FieldName := ⟨"toTable", "to_table"⟩
def toColumn : FieldName := ⟨"toColumn", "to_column"⟩

end FieldName

/-! ## Parts -/

namespace Checked

variable {α : Type}

/-- The spelling and the value of a field that is present. -/
def present? (fields : Dict Value) (name : FieldName) : Option (String × Value) :=
  match Dict.get? fields name.wire with
  | some v => some (name.wire, v)
  | none => (Dict.get? fields name.plain).map fun v => (name.plain, v)

def optional (fields : Dict Value) (name : FieldName) (absent : α) (read : Value → Checked α) :
    Checked α :=
  match present? fields name with
  | some (key, v) => (read v).within (.field key)
  | none => .ok absent

def required (fields : Dict Value) (name : FieldName) (read : Value → Checked α) : Checked α :=
  match present? fields name with
  | some (key, v) => (read v).within (.field key)
  | none => (refuse .missing (.record fields) : Checked α).within (.field name.wire)

def text : Value → Checked String
  | .text s => .ok s
  | v => refuse .notText v

/-- Read the members of a list, each with its position. -/
def members (read : Nat → Value → Checked α) : Value → Checked (List α)
  | .list vs => all (vs.mapIdx fun i v => (read i v).within (.member i))
  | v => refuse .notList v

def texts : Value → Checked (List String) := members fun _ v => text v

/-- Read one of a fixed set of names. -/
def choice (choices : String) (ofName? : String → Option α) (v : Value) : Checked α :=
  match v.text?.bind ofName? with
  | some a => .ok a
  | none => refuse (.notOneOf choices) v

end Checked

/-- How a value that is no object is refused: with the name of the model, as a value given
directly, or without, as part of a request. -/
inductive ObjectRule
  | named
  | attributes
  deriving DecidableEq, Repr

def ObjectRule.fields (rule : ObjectRule) (model : String) : Value → Checked (Dict Value)
  | .record fields => .ok fields
  | v => Checked.refuse (match rule with
    | .named => .notModel model
    | .attributes => .notAttributes) v

/-! ## Filters, joins and states -/

/-- The choices of an order direction, as a complaint lists them. -/
def OrderDirection.choices : String := "'asc' or 'desc'"

/-- The choices of an operator, as a complaint lists them. -/
def Operator.choices : String :=
  "'eq', 'neq', 'gt', 'gte', 'lt', 'lte', 'like', 'ilike', 'is_null', 'is_not_null' or 'in'"

/-- Read the operator of a filter; whatever says nothing means that none is picked. -/
def Operator.ofValue (v : Value) : Checked (Option Operator) :=
  if v.isTruthy then (Checked.choice Operator.choices Operator.ofName? v).map some else .ok none

/-- Read the value of a filter; null is the empty text. -/
def Filter.valueOf : Value → Checked String
  | .null => .ok ""
  | v => Checked.text v

/-- Read a filter; `fresh` is its id if it brings none. -/
def Filter.ofValue (rule : ObjectRule) (fresh : String) (v : Value) : Checked Filter :=
  match rule.fields "Filter" v with
  | .error cs => .error cs
  | .ok fields =>
    let id := Checked.optional fields .id fresh Checked.text
    let column := Checked.optional fields .column "" Checked.text
    let operator := Checked.optional fields .operator none Operator.ofValue
    let value := Checked.optional fields .value "" Filter.valueOf
    ((((Checked.both (.ok Filter.mk) id).both column).both operator).both value)

/-- Read a join; `fresh` is its id if it brings none. -/
def JoinConfig.ofValue (rule : ObjectRule) (fresh : String) (v : Value) : Checked JoinConfig :=
  match rule.fields "JoinConfig" v with
  | .error cs => .error cs
  | .ok fields =>
    let id := Checked.optional fields .id fresh Checked.text
    let fromTable := Checked.required fields .fromTable Checked.text
    let fromColumn := Checked.required fields .fromColumn Checked.text
    let toTable := Checked.required fields .toTable Checked.text
    let toColumn := Checked.optional fields .toColumn "id" Checked.text
    let selected := Checked.optional fields .selectedColumns [] Checked.texts
    ((((((Checked.both (.ok JoinConfig.mk) id).both fromTable).both fromColumn).both toTable).both
      toColumn).both selected)

/-- A state from its fields, in their order. -/
def QueryState.ofParts (table : String) (selectedColumns : List String) (filters : List Filter)
    (joins : List JoinConfig) (orderBy : String) (orderDirection : OrderDirection) (page : Nat)
    (pageSize : { n : Nat // 0 < n }) : QueryState :=
  { table, selectedColumns, filters, joins, orderBy, orderDirection, page,
    pageSize := pageSize.1, pageSize_pos := pageSize.2 }

/-- A supply of ids: the ids given to the filters and joins that bring none. -/
structure IdSupply where
  filterId : Nat → String
  joinId : Nat → String

/-- Ids of 32 hexadecimal digits, different for all filters and joins of a state. -/
def IdSupply.numbered : IdSupply :=
  { filterId := fun i => Text.hexPadded 32 (2 * i), joinId := fun i => Text.hexPadded 32 (2 * i + 1) }

/-- Read a query state. -/
def QueryState.ofValue (rule : ObjectRule) (ids : IdSupply) (v : Value) : Checked QueryState :=
  match rule.fields "QueryState" v with
  | .error cs => .error cs
  | .ok fields =>
    let table := Checked.optional fields .table "" Checked.text
    let selected := Checked.optional fields .selectedColumns [] Checked.texts
    let filters := Checked.optional fields .filters []
      (Checked.members fun i => Filter.ofValue rule (ids.filterId i))
    let joins := Checked.optional fields .joins []
      (Checked.members fun i => JoinConfig.ofValue rule (ids.joinId i))
    let orderBy := Checked.optional fields .orderBy "" Checked.text
    let direction := Checked.optional fields .orderDirection .ascending
      (Checked.choice OrderDirection.choices OrderDirection.ofName?)
    let page := Checked.optional fields .page 0 Checked.natural
    let pageSize := Checked.optional fields .pageSize ⟨defaultPageSize, by decide⟩ Checked.positive
    ((((((((Checked.both (.ok QueryState.ofParts) table).both selected).both filters).both
      joins).both orderBy).both direction).both page).both pageSize)

/-! ## Writing -/

def Value.ofTexts (ss : List String) : Value := .list (ss.map .text)

def Filter.toValue (spell : FieldName → String) (f : Filter) : Value :=
  .record [(spell .id, .text f.id), (spell .column, .text f.column),
    (spell .operator, (f.operator.map fun op => Value.text op.name).getD .null),
    (spell .value, .text f.value)]

def JoinConfig.toValue (spell : FieldName → String) (j : JoinConfig) : Value :=
  .record [(spell .id, .text j.id), (spell .fromTable, .text j.fromTable),
    (spell .fromColumn, .text j.fromColumn), (spell .toTable, .text j.toTable),
    (spell .toColumn, .text j.toColumn), (spell .selectedColumns, .ofTexts j.selectedColumns)]

def QueryState.toValue (spell : FieldName → String) (s : QueryState) : Value :=
  .record [(spell .table, .text s.table), (spell .selectedColumns, .ofTexts s.selectedColumns),
    (spell .filters, .list (s.filters.map (Filter.toValue spell))),
    (spell .joins, .list (s.joins.map (JoinConfig.toValue spell))),
    (spell .orderBy, .text s.orderBy), (spell .orderDirection, .text s.orderDirection.name),
    (spell .page, .int s.page), (spell .pageSize, .int s.pageSize)]

end TableExplorer
