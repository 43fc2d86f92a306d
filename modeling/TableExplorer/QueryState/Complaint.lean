import TableExplorer.Value.Basic

/-!
# Complaints about a document

A value that a client sends is refused with a list of complaints. Each names the place in the
document, the cause and the input it is about. `Complaint.toValue` is a complaint as a document.

Readers of parts give either a result or their complaints, so that the complaints of all parts of
a document come together, in order.
-/

namespace TableExplorer

namespace Complaint

/-- A step into a document. -/
inductive Step
  | field (name : String)
  | member (position : Nat)
  deriving DecidableEq, Repr

def Step.toValue : Step → Value
  | field name => .text name
  | member position => .int position

/-- Why a part of a document is refused. -/
inductive Cause
  | missing
  | notText
  | notList
  | notModel (name : String)
  | notAttributes
  | notOneOf (choices : String)
  | notInteger
  | unreadableInteger
  | oversizedInteger
  | fractionalInteger
  | notFinite
  | notBoolean
  | unreadableBoolean
  | below (limit : Int)
  | notAbove (limit : Int)
  | above (limit : Int)
  | invalidDocument (reason : String)
  deriving DecidableEq, Repr

/-- The short name of a cause. -/
def Cause.kind : Cause → String
  | missing => "missing"
  | notText => "string_type"
  | notList => "list_type"
  | notModel _ => "model_type"
  | notAttributes => "model_attributes_type"
  | notOneOf _ => "enum"
  | notInteger => "int_type"
  | unreadableInteger => "int_parsing"
  | oversizedInteger => "int_parsing_size"
  | fractionalInteger => "int_from_float"
  | notFinite => "finite_number"
  | notBoolean => "bool_type"
  | unreadableBoolean => "bool_parsing"
  | below _ => "greater_than_equal"
  | notAbove _ => "greater_than"
  | above _ => "less_than_equal"
  | invalidDocument _ => "json_invalid"

def Cause.message : Cause → String
  | missing => "Field required"
  | notText => "Input should be a valid string"
  | notList => "Input should be a valid list"
  | notModel name => "Input should be a valid dictionary or instance of " ++ name
  | notAttributes => "Input should be a valid dictionary or object to extract fields from"
  | notOneOf choices => "Input should be " ++ choices
  | notInteger => "Input should be a valid integer"
  | unreadableInteger => "Input should be a valid integer, unable to parse string as an integer"
  | oversizedInteger => "Unable to parse input string as an integer, exceeded maximum size"
  | fractionalInteger => "Input should be a valid integer, got a number with a fractional part"
  | notFinite => "Input should be a finite number"
  | notBoolean => "Input should be a valid boolean"
  | unreadableBoolean => "Input should be a valid boolean, unable to interpret input"
  | below limit => "Input should be greater than or equal to " ++ Text.ofInt limit
  | notAbove limit => "Input should be greater than " ++ Text.ofInt limit
  | above limit => "Input should be less than or equal to " ++ Text.ofInt limit
  | invalidDocument _ => "JSON decode error"

/-- What a cause says besides its wording: the bound, the choices, the name or the reason in it. -/
def Cause.context : Cause → List (String × Value)
  | notModel name => [("class_name", .text name)]
  | notOneOf choices => [("expected", .text choices)]
  | below limit => [("ge", .int limit)]
  | notAbove limit => [("gt", .int limit)]
  | above limit => [("le", .int limit)]
  | invalidDocument reason => [("error", .text reason)]
  | _ => []

end Complaint

/-- What is wrong at one place of a document. -/
structure Complaint where
  location : List Complaint.Step
  cause : Complaint.Cause
  input : Value
  deriving Repr

namespace Complaint

def toValue (c : Complaint) : Value :=
  let context := if c.cause.context.isEmpty then []
    else [("ctx", Value.record c.cause.context)]
  .record ([("type", .text c.cause.kind), ("loc", .list (c.location.map Step.toValue)),
    ("msg", .text c.cause.message), ("input", c.input)] ++ context)

/-- The same complaint about a part of a larger document. -/
def within (step : Step) (c : Complaint) : Complaint :=
  { c with location := step :: c.location }

end Complaint

/-- A result, or what is wrong with the document. -/
abbrev Checked (α : Type) := Except (List Complaint) α

namespace Checked

variable {α β : Type}

def complaints : Checked α → List Complaint
  | .ok _ => []
  | .error cs => cs

def refuse (cause : Complaint.Cause) (input : Value) : Checked α :=
  .error [{ location := [], cause, input }]

/-- Read a part at a place of the document. -/
def within (step : Complaint.Step) : Checked α → Checked α
  | .ok a => .ok a
  | .error cs => .error (cs.map (Complaint.within step))

/-- Apply a function to a result; the complaints of both sides come together. -/
def both (f : Checked (α → β)) (a : Checked α) : Checked β :=
  match f, a with
  | .ok f, .ok a => .ok (f a)
  | f, a => .error (f.complaints ++ a.complaints)

/-- All results of a list, or all complaints. -/
def all : List (Checked α) → Checked (List α)
  | [] => .ok []
  | c :: cs => both (both (.ok List.cons) c) (all cs)

end Checked

end TableExplorer
