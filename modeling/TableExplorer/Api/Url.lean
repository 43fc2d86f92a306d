import TableExplorer.Dict
import TableExplorer.Json.Reader
import TableExplorer.Text.Split

/-!
# Addresses of requests

The target of a request is a path and a query, perhaps behind a host. The path loses its dot
segments and is decoded twice, once by the client and once by the server; a percent sign that
begins no escape stands for itself. The query is a list of names and values, of which the last value
of a name counts. A path that is written into an address and read again loses what an address does
not hold.
-/

namespace TableExplorer.Api

/-! ## Percent escapes -/

/-- Octets with each percent escape replaced by the octet it stands for. -/
def unescapeOctets : List UInt8 → List UInt8
  | 0x25 :: a :: b :: rest =>
    match Json.hexDigit? (Char.ofNat a.toNat), Json.hexDigit? (Char.ofNat b.toNat) with
    | some x, some y => UInt8.ofNat (x * 16 + y) :: unescapeOctets rest
    | _, _ => 0x25 :: unescapeOctets (a :: b :: rest)
  | b :: rest => b :: unescapeOctets rest
  | [] => []

/-- A text with its percent escapes decoded. -/
def unescape (s : String) : String := Text.lossyUtf8 (unescapeOctets s.toUTF8.toList)

/-- The characters that need no escape in an address. -/
def plainInAddress : List Char := ":/%#?=@[]!$&'()*+,;_.-~".toList

/-- An octet of an address, escaped unless it is plain. -/
def escapeOctet (b : UInt8) : List Char :=
  let c := Char.ofNat b.toNat
  if b.toNat < 128 && (c.isAlphanum || plainInAddress.contains c) then [c]
  else '%' :: ((Text.hexPadded 2 b.toNat).toList.map Text.asciiUpper)

/-- An address with all characters escaped that must be. -/
def escapeAddress (s : String) : String := String.ofList (s.toUTF8.toList.flatMap escapeOctet)

/-! ## Targets -/

/-- Where a request goes: the decoded path, and the query as it was written. -/
structure Target where
  path : String
  query : String
  deriving DecidableEq, Repr

/-- The components of a path without dot segments. -/
def removeDots (components : List (List Char)) : List (List Char) :=
  (components.foldl (fun done c =>
    if c = ['.'] then done
    else if c = ['.', '.'] then (if done = [] ∨ done = [[]] then done else done.tail)
    else c :: done) []).reverse

/-- The path of a request before it is decoded: one slash in front, and no dot segments. -/
def cleanPath (cs : List Char) : String :=
  let path := '/' :: cs.dropWhile (· == '/')
  String.ofList (Text.joinWith '/' (removeDots (Text.splitAtChar '/' path)))

/-- A target without the host that two slashes in front of it announce. -/
def withoutHost : List Char → List Char
  | '/' :: '/' :: cs => cs.dropWhile fun c => c != '/' && c != '?'
  | cs => cs

/-- Take a written target apart. What follows a number sign does not belong to it. -/
def Target.parse (target : String) : Target :=
  let cs := withoutHost (target.toList.takeWhile (· != '#'))
  { path := unescape (unescape (cleanPath (cs.takeWhile (· != '?'))))
    query := String.ofList ((cs.dropWhile (· != '?')).drop 1) }

/-- A name or value of a query. -/
def unescapeQuery (cs : List Char) : String :=
  unescape (String.ofList (cs.map fun c => if c = '+' then ' ' else c))

def Target.params (t : Target) : Dict String :=
  Dict.ofList (((Text.splitAtChar '&' t.query.toList).filter fun part => !part.isEmpty).map
    fun part =>
      (unescapeQuery (part.takeWhile (· != '=')),
        unescapeQuery ((part.dropWhile (· != '=')).drop 1)))

/-! ## Addresses -/

/-- A character of a path as it is written into an address: the two signs that end a path there are
escaped. -/
def writtenChar (c : Char) : List Char :=
  if c = '?' then ['%', '3', 'F'] else if c = '#' then ['%', '2', '3'] else [c]

/-- A path as it is written into an address. -/
def writtenPath (path : String) : String := String.ofList (path.toList.flatMap writtenChar)

/-- Whether a character counts in an address: tabs and line breaks do not. -/
def countsInAddress (c : Char) : Bool := c != '\t' && c != '\n' && c != '\r'

/-- The path of an address into which a path was written. -/
def pathInAddress (path : String) : String :=
  String.ofList ((writtenPath path).toList.filter countsInAddress)

end TableExplorer.Api
