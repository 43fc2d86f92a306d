import TableExplorer.Text.Characters
import TableExplorer.Value.Basic

/-!
# Options of a database connection

What the driver of a database is told besides the address: a file database may be shared between
threads, and a server stops statements after a time where one is set.
-/

namespace TableExplorer

/-- What the driver is told. -/
inductive ConnectionOptions
  | standard
  | sharedBetweenThreads
  | statementTimeout (milliseconds : Int)
  deriving DecidableEq, Repr

namespace ConnectionOptions

def maxDigits : Nat := 4300

inductive Fault
  | notInteger (text : String)
  | tooLong (digits : Nat)
  deriving DecidableEq, Repr

def Fault.message : Fault → String
  | notInteger text => "invalid literal for int() with base 10: " ++ Text.quoted text
  | tooLong digits =>
    "Exceeds the limit (4300 digits) for integer string conversion: value has " ++
      Nat.repr digits ++ " digits; use sys.set_int_max_str_digits() to increase the limit"

def readTimeout (text : String) : Except Fault Int :=
  let digits := text.toList.countP fun c => (Text.digitValue? c).isSome
  match Text.readInt? text with
  | none => .error (.notInteger text)
  | some i => if maxDigits < digits then .error (.tooLong digits) else .ok i

/-- The options for an address, with the statement timeout that is set, if any. -/
def ofAddress (address : String) (timeout : Option String) : Except Fault ConnectionOptions :=
  if address.startsWith "sqlite" then .ok sharedBetweenThreads
  else if address.startsWith "postgresql" then
    match timeout with
    | none => .ok standard
    | some text => if text.isEmpty then .ok standard else (readTimeout text).map statementTimeout
  else .ok standard

def toValue : ConnectionOptions → Value
  | standard => .record []
  | sharedBetweenThreads => .record [("check_same_thread", .bool false)]
  | statementTimeout ms =>
    .record [("options", .text ("-c statement_timeout=" ++ Text.ofInt ms))]

end ConnectionOptions

end TableExplorer
