import TableExplorer.Api.Url
import TableExplorer.Json.Writer
import TableExplorer.QueryState.Reader
import TableExplorer.Sheet.Workbook

/-!
# Requests and responses

A request has a method, a target, a body with a content type, and the client it comes from. The
body is a JSON document if its content type says so. A response has a status, a content type, a
body and further headers.
-/

namespace TableExplorer.Api

/-! ## Requests -/

structure HttpRequest where
  method : String
  target : String
  body : String := ""
  contentType : Option String := none
  origin : String
  client : Option String := none
  deriving DecidableEq, Repr

/-- The decoded path of a request. -/
def HttpRequest.path (r : HttpRequest) : String := (Target.parse r.target).path

/-- Whether a content type is that of a JSON document: `application/json` or a kind of it. -/
def isJsonType (contentType : String) : Bool :=
  let kind := Text.lowered (Text.strip
    (String.ofList (contentType.toList.takeWhile (· != ';'))))
  match Text.splitAtChar '/' kind.toList with
  | [main, sub] =>
    String.ofList main = "application" &&
      (String.ofList sub = "json" || (String.ofList sub).endsWith "+json")
  | _ => false

/-- What the body of a request holds. A document is halved if a text of it holds half of a surrogate
pair. -/
inductive BodyContent
  | absent
  | document (v : Value)
  | halved
  | malformed (f : Json.DocumentFault)
  | unreadable
  deriving Repr

/-- Read the body of a request, where JSON is read down to a limit of nesting. A body that is no
JSON document is a text. -/
def HttpRequest.content (nesting : Nat) (r : HttpRequest) : BodyContent :=
  if r.body.isEmpty then .absent
  else if (r.contentType.map isJsonType).getD false then
    match Text.decodeDocument? r.body.toUTF8 with
    | none => .unreadable
    | some s =>
      match Json.readWithin nesting s with
      | .ok v =>
        if Text.holdsHalf r.body.toUTF8 || Json.holdsHalf s then .halved else .document v
      | .error (.fault f) => if f.cause = .tooManyDigits then .unreadable else .malformed f
      | .error .tooDeep => .unreadable
  else .document (.text r.body)

/-! ## Responses -/

inductive Body
  | empty
  | document (v : Value)
  | text (s : String)
  | workbook (w : Sheet.Workbook)
  deriving Repr

structure HttpResponse where
  status : Nat
  contentType : String
  body : Body
  headers : List (String × String) := []
  deriving Repr

def jsonType : String := "application/json"

def pageType : String := "text/html; charset=utf-8"

mutual

/-- A value in which every double that is no finite number is null. -/
def finiteOnly : Value → Value
  | .real d => if d.isFinite then .real d else .null
  | .list members => .list (finiteMembers members)
  | .record fields => .record (finiteFields fields)
  | v => v

def finiteMembers : List Value → List Value
  | [] => []
  | v :: vs => finiteOnly v :: finiteMembers vs

def finiteFields : List (String × Value) → List (String × Value)
  | [] => []
  | (k, v) :: fs => (k, finiteOnly v) :: finiteFields fs

end

mutual

/-- Whether one of the scalars in a value is of some kind. -/
def anyScalar (kind : Value → Bool) : Value → Bool
  | .list members => anyScalarMember kind members
  | .record fields => anyScalarField kind fields
  | v => kind v

def anyScalarMember (kind : Value → Bool) : List Value → Bool
  | [] => false
  | v :: vs => anyScalar kind v || anyScalarMember kind vs

def anyScalarField (kind : Value → Bool) : List (String × Value) → Bool
  | [] => false
  | (_, v) :: fs => anyScalar kind v || anyScalarField kind fs

end

/-- Whether a scalar is a double that is no finite number. -/
def isNonFinite : Value → Bool
  | .real d => !d.isFinite
  | _ => false

def hasNonFinite (v : Value) : Bool := anyScalar isNonFinite v

/-- Whether a scalar is an integer with more digits than are written. -/
def isLongInteger : Value → Bool
  | .int i => decide (Json.maxIntegerDigits < (Nat.toDigits 10 i.natAbs).length)
  | _ => false

/-- Whether a value holds an integer with more digits than are written. -/
def hasLongInteger (v : Value) : Bool := anyScalar isLongInteger v

namespace HttpResponse

def json (v : Value) (status : Nat := 200) : HttpResponse :=
  { status, contentType := jsonType, body := .document (finiteOnly v) }

def page (content : String) : HttpResponse :=
  { status := 200, contentType := pageType, body := .text content }

/-- A refusal with its reason. -/
def refusal (status : Nat) (detail : String) : HttpResponse :=
  json (.record [("detail", .text detail)]) status

def complaints (cs : List Complaint) : HttpResponse :=
  json (.record [("detail", .list (cs.map Complaint.toValue))]) 422

def withHeader (r : HttpResponse) (name value : String) : HttpResponse :=
  { r with headers := r.headers ++ [(name, value)] }

/-- The answer to a request for something that is not there. -/
def notFound : HttpResponse := refusal 404 "Not Found"

/-- The answer to a method that an endpoint does not have. -/
def notAllowed (allowed : String) : HttpResponse :=
  (refusal 405 "Method Not Allowed").withHeader "allow" allowed

/-- The answer that sends the client to another address. -/
def redirect (address : String) : HttpResponse :=
  ({ status := 307, contentType := "", body := .empty } : HttpResponse).withHeader "location"
    address

/-- The answer to a request that went wrong inside. -/
def internalError : HttpResponse := refusal 500 "Internal Server Error"

/-- The octets of the body, if it is a JSON document. -/
def jsonOctets? (r : HttpResponse) : Option ByteArray :=
  match r.body with
  | .document v =>
    if Text.occursIn jsonType r.contentType then some (Json.render v).toUTF8 else none
  | _ => none

/-- Whether the body can be written: a document is, if its integers are short enough. -/
def isWritable (r : HttpResponse) : Bool :=
  match r.body with
  | .document v => !hasLongInteger v
  | _ => true

/-- What is left of an answer when only its headers are asked for. -/
def headersOnly (r : HttpResponse) : HttpResponse := { r with body := .empty }

end HttpResponse

/-- How an endpoint ends: with an answer, or by going wrong inside. -/
inductive Outcome
  | answer (r : HttpResponse)
  | broken
  deriving Repr

/-- Refuse a request with complaints about it. A complaint about an input that no JSON document
can show goes wrong. -/
def Outcome.complain (cs : List Complaint) : Outcome :=
  if cs.any fun c => hasNonFinite c.input then .broken
  else .answer (.complaints cs)

end TableExplorer.Api
