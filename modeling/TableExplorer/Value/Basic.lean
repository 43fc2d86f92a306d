import TableExplorer.Dict
import TableExplorer.Double.Text
import TableExplorer.Text.Quoted

/-!
# Values

What a row holds under a column, and equally what a JSON document holds: null, a boolean, an
integer of any size, a double, a text, a list, or a record. A record keeps the order of its
fields; an embedded relation is one.

`Value.display` is the text of a value inside messages, labels and files: a text as it is, and
everything else as `Value.shown` writes it, with texts inside lists and records in quotes.
-/

namespace TableExplorer

/-- A value of a row or of a JSON document. -/
inductive Value
  | null
  | bool (b : Bool)
  | int (i : Int)
  | real (d : Double)
  | text (s : String)
  | list (members : List Value)
  | record (fields : List (String × Value))
  deriving Repr, Inhabited

/-- A row: its values by column, in column order. -/
abbrev Row := Dict Value

namespace Value

/-- Whether a value says something: null, false, zero and everything empty do not. -/
def isTruthy : Value → Bool
  | null => false
  | bool b => b
  | int i => i != 0
  | real d => !d.isZero
  | text s => !s.isEmpty
  | list members => !members.isEmpty
  | record fields => !fields.isEmpty

/-- The text of a value, if it is one. -/
def text? : Value → Option String
  | text s => some s
  | _ => none

/-! ## The text of a value -/

mutual

/-- A value as it is shown inside a list: texts in quotes. -/
def shown : Value → String
  | null => "None"
  | bool true => "True"
  | bool false => "False"
  | int i => Text.ofInt i
  | real d => d.text
  | text s => Text.quoted s
  | list members => "[" ++ String.intercalate ", " (shownMembers members) ++ "]"
  | record fields => "\x7b" ++ String.intercalate ", " (shownFields fields) ++ "\x7d"

def shownMembers : List Value → List String
  | [] => []
  | v :: vs => shown v :: shownMembers vs

/-- The fields of a record as they are shown: name, colon, value. -/
def shownFields : List (String × Value) → List String
  | [] => []
  | (k, v) :: fs => (Text.quoted k ++ ": " ++ shown v) :: shownFields fs

end

/-- A value as a text: a text as it is, anything else as it is shown. -/
def display : Value → String
  | text s => s
  | v => shown v

/-- A value as a label: whatever says nothing is the empty label. -/
def label (v : Value) : String := if v.isTruthy then v.display else ""

end Value

/-! ## Scalars -/

/-- A value without parts, as it is compared with a column or stored in it. -/
inductive Scalar
  | null
  | bool (b : Bool)
  | int (i : Int)
  | real (d : Double)
  | text (s : String)
  | octets (bs : List UInt8)
  deriving DecidableEq, Repr, Inhabited

/-- The value that a scalar is in an answer; octets are written in hexadecimal. -/
def Scalar.toValue : Scalar → Value
  | .null => .null
  | .bool b => .bool b
  | .int i => .int i
  | .real d => .real d
  | .text s => .text s
  | .octets bs => .text (Text.hex bs)

/-- A scalar as it is shown in an error text. -/
def Scalar.shown : Scalar → String
  | .octets bs => Text.quotedOctets bs
  | s => s.toValue.shown

end TableExplorer
