import TableExplorer.Value.Basic

/-!
# Writing JSON

The compact form of a document: no white space, texts in UTF-8 with only the quote, the backslash
and the control characters escaped. `render` keeps the order of the fields; `renderSorted` writes
the fields of every record in the order of their names. `renderAsciiText` writes a text with all
that is not ASCII escaped too.
-/

namespace TableExplorer.Json

def numericEscape (unit : Nat) : List Char := '\\' :: 'u' :: (Text.hexPadded 4 unit).toList

/-- A character inside a JSON string. -/
def escaped (c : Char) : List Char :=
  if c = '"' then ['\\', '"']
  else if c = '\\' then ['\\', '\\']
  else if c = '\n' then ['\\', 'n']
  else if c = '\r' then ['\\', 'r']
  else if c = '\t' then ['\\', 't']
  else if c = '\x08' then ['\\', 'b']
  else if c = '\x0c' then ['\\', 'f']
  else if c.toNat < 0x20 then numericEscape c.toNat
  else [c]

/-- A character inside a JSON string in ASCII: beyond the first plane it is a pair of escapes. -/
def asciiEscaped (c : Char) : List Char :=
  let n := c.toNat
  if n < 0x7f then escaped c
  else if n < 0x10000 then numericEscape n
  else
    let offset := n - 0x10000
    numericEscape (0xd800 + offset / 0x400) ++ numericEscape (0xdc00 + offset % 0x400)

/-- A text as a JSON string. -/
def renderText (s : String) : String :=
  "\"" ++ String.ofList (s.toList.flatMap escaped) ++ "\""

/-- A text as a JSON string in ASCII. -/
def renderAsciiText (s : String) : String :=
  "\"" ++ String.ofList (s.toList.flatMap asciiEscaped) ++ "\""

/-- A double in a document; the ones that are no numbers are written as words. -/
def renderDouble : Double → String
  | .nan => "NaN"
  | .infinite false => "Infinity"
  | .infinite true => "-Infinity"
  | d => d.text

mutual

/-- A value as a compact JSON text. -/
def render : Value → String
  | .null => "null"
  | .bool true => "true"
  | .bool false => "false"
  | .int i => Text.ofInt i
  | .real d => renderDouble d
  | .text s => renderText s
  | .list members => "[" ++ String.intercalate "," (renderMembers members) ++ "]"
  | .record fields => "\x7b" ++ String.intercalate "," (renderFields fields) ++ "\x7d"

def renderMembers : List Value → List String
  | [] => []
  | v :: vs => render v :: renderMembers vs

def renderFields : List (String × Value) → List String
  | [] => []
  | (k, v) :: fs => (renderText k ++ ":" ++ render v) :: renderFields fs

end

mutual

/-- A value with the fields of every record in the order of their names. -/
def sortFields : Value → Value
  | .list members => .list (sortMembers members)
  | .record fields => .record ((sortEach fields).mergeSort fun a b => !decide (b.1 < a.1))
  | v => v

def sortMembers : List Value → List Value
  | [] => []
  | v :: vs => sortFields v :: sortMembers vs

def sortEach : List (String × Value) → List (String × Value)
  | [] => []
  | (k, v) :: fs => (k, sortFields v) :: sortEach fs

end

/-- A value as a compact JSON text with sorted fields. -/
def renderSorted (v : Value) : String := render (sortFields v)

end TableExplorer.Json
