import TableExplorer.Text.Printable

/-!
# Quoted texts

A text inside an error message, a list or a mapping is shown in single quotes, or in double
quotes where it holds a single quote and no double one. The backslash and the quote in use are
escaped with a backslash, the line feed, the carriage return and the tab have short escapes, and
any other character that is not printable is written with its code point in hexadecimal, in two,
four or eight digits. Bytes are shown in the same way behind a `b`, with every octet outside
printable ASCII in two hexadecimal digits.
-/

namespace TableExplorer.Text

/-- The last `width` hexadecimal digits of `n`, in lower case. -/
def hexPadded (width n : Nat) : String :=
  let ds := Nat.toDigits 16 n
  String.ofList (List.replicate (width - ds.length) '0' ++ ds)

/-- Octets in lower-case hexadecimal, two digits each. -/
def hex (octets : List UInt8) : String :=
  String.join (octets.map fun b => hexPadded 2 b.toNat)

def quoteOf (cs : List Char) : Char :=
  if cs.contains '\'' && !cs.contains '"' then '"' else '\''

/-- A character outside the quotes' own alphabet by its code point. -/
def escapeCode (n : Nat) : String :=
  if n < 0x100 then "\\x" ++ hexPadded 2 n
  else if n < 0x10000 then "\\u" ++ hexPadded 4 n
  else "\\U" ++ hexPadded 8 n

/-- One character of a quoted text. -/
def quotedChar (quote c : Char) : String :=
  if c = quote || c = '\\' then String.ofList ['\\', c]
  else if c = '\n' then "\\n"
  else if c = '\r' then "\\r"
  else if c = '\t' then "\\t"
  else if isPrintable c then c.toString
  else escapeCode c.toNat

/-- The quoted form of a text. -/
def quoted (s : String) : String :=
  let quote := quoteOf s.toList
  quote.toString ++ String.join (s.toList.map (quotedChar quote)) ++ quote.toString

/-- One octet of quoted bytes. -/
def quotedOctet (quote : Char) (b : UInt8) : String :=
  let c := Char.ofNat b.toNat
  if c = quote || c = '\\' then String.ofList ['\\', c]
  else if c = '\n' then "\\n"
  else if c = '\r' then "\\r"
  else if c = '\t' then "\\t"
  else if 32 ≤ b.toNat && b.toNat < 127 then c.toString
  else "\\x" ++ hexPadded 2 b.toNat

/-- The quoted form of a byte string. -/
def quotedOctets (octets : List UInt8) : String :=
  let quote := quoteOf (octets.map fun b => Char.ofNat b.toNat)
  "b" ++ quote.toString ++ String.join (octets.map (quotedOctet quote)) ++ quote.toString

end TableExplorer.Text
