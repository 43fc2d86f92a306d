/-!
# Octets to text

Reading of octets as UTF-8, UTF-16 and UTF-32, and the detection of which of them a JSON document
is written in: by its byte order mark, or else by where the zero octets of its first characters
fall. A surrogate that stands alone has no place in a text: it is read as U+FFFD, and `holdsHalf`
tells that a document holds one. Any other malformed sequence makes a document unreadable.
`lossyUtf8` reads every octet string, with one U+FFFD for each longest ill-formed part.
-/

namespace TableExplorer.Text

/-! ## UTF-8 -/

/-- What the first octet of a UTF-8 sequence promises: the number of octets that follow, the bits
it contributes, and the bounds of the second octet. -/
structure Lead where
  following : Nat
  bits : Nat
  low : Nat := 0x80
  high : Nat := 0xbf

/-- The promise of a first octet, with the surrogate code points admitted on request. -/
def lead? (surrogates : Bool) (b : Nat) : Option Lead :=
  if b < 0x80 then some { following := 0, bits := b }
  else if b < 0xc2 then none
  else if b < 0xe0 then some { following := 1, bits := b - 0xc0 }
  else if b = 0xe0 then some { following := 2, bits := 0, low := 0xa0 }
  else if b = 0xed && !surrogates then some { following := 2, bits := 0xd, high := 0x9f }
  else if b < 0xf0 then some { following := 2, bits := b - 0xe0 }
  else if b = 0xf0 then some { following := 3, bits := 0, low := 0x90 }
  else if b < 0xf4 then some { following := 3, bits := b - 0xf0 }
  else if b = 0xf4 then some { following := 3, bits := 4, high := 0x8f }
  else none

/-- Read `count` continuation octets, the first of them between `low` and `high`; the code point,
or `none` at an octet that does not continue the sequence, and the octets left. -/
def continueSequence : (count bits low high : Nat) → List UInt8 → Option Nat × List UInt8
  | 0, bits, _, _, rest => (some bits, rest)
  | _ + 1, _, _, _, [] => (none, [])
  | count + 1, bits, low, high, b :: rest =>
    if low ≤ b.toNat ∧ b.toNat ≤ high then
      continueSequence count (bits * 64 + (b.toNat - 0x80)) 0x80 0xbf rest
    else (none, b :: rest)

def isSurrogate (n : Nat) : Bool := 0xd800 ≤ n && n ≤ 0xdfff

/-- A code point as a character; a surrogate becomes U+FFFD. -/
def scalar (n : Nat) : Char :=
  if 0xd800 ≤ n ∧ n ≤ 0xdfff then '\ufffd' else Char.ofNat n

/-- The characters of an octet string, `none` for each longest ill-formed part; at most `fuel` of
them. -/
def scanUtf8 (surrogates : Bool) : Nat → List UInt8 → List (Option Char)
  | 0, _ => []
  | _, [] => []
  | fuel + 1, b :: rest =>
    match lead? surrogates b.toNat with
    | none => none :: scanUtf8 surrogates fuel rest
    | some lead =>
      let (code, rest) := continueSequence lead.following lead.bits lead.low lead.high rest
      code.map scalar :: scanUtf8 surrogates fuel rest

/-- Every octet string as a text: U+FFFD stands for each longest ill-formed part. -/
def lossyUtf8 (octets : List UInt8) : String :=
  String.ofList ((scanUtf8 false octets.length octets).map fun c => c.getD '\ufffd')

/-- The text of a UTF-8 document, with U+FFFD for a surrogate that is encoded on its own. -/
def utf8? (octets : ByteArray) : Option String :=
  match String.fromUTF8? octets with
  | some s => some s
  | none => ((scanUtf8 true octets.size octets.toList).mapM id).map String.ofList

/-! ## UTF-16 and UTF-32 -/

/-- The order of the octets of a unit. -/
inductive OctetOrder
  | big
  | little
  deriving DecidableEq, Repr

/-- A number from its octets. -/
def OctetOrder.join (order : OctetOrder) (octets : List UInt8) : Nat :=
  let bigFirst := match order with
    | .big => octets
    | .little => octets.reverse
  bigFirst.foldl (fun n b => n * 256 + b.toNat) 0

def units16? (order : OctetOrder) : List UInt8 → Option (List Nat)
  | [] => some []
  | a :: b :: rest => (units16? order rest).map (order.join [a, b] :: ·)
  | _ => none

/-- Join surrogate pairs; a surrogate that stands alone becomes U+FFFD. -/
def pairUnits : List Nat → List Char
  | [] => []
  | [u] => [scalar u]
  | u :: v :: rest =>
    if 0xd800 ≤ u ∧ u < 0xdc00 ∧ 0xdc00 ≤ v ∧ v < 0xe000 then
      Char.ofNat (0x10000 + (u - 0xd800) * 0x400 + (v - 0xdc00)) :: pairUnits rest
    else scalar u :: pairUnits (v :: rest)

/-- Whether a surrogate stands alone. -/
def hasHalf : List Nat → Bool
  | [] => false
  | [u] => isSurrogate u
  | u :: v :: rest =>
    if 0xd800 ≤ u ∧ u < 0xdc00 ∧ 0xdc00 ≤ v ∧ v < 0xe000 then hasHalf rest
    else isSurrogate u || hasHalf (v :: rest)

/-- The text of a UTF-16 document. -/
def utf16? (order : OctetOrder) (octets : List UInt8) : Option String :=
  (units16? order octets).map fun units => String.ofList (pairUnits units)

def units32? (order : OctetOrder) : List UInt8 → Option (List Nat)
  | [] => some []
  | a :: b :: c :: d :: rest =>
    let n := order.join [a, b, c, d]
    if n ≤ 0x10ffff then (units32? order rest).map (n :: ·) else none
  | _ => none

def utf32? (order : OctetOrder) (octets : List UInt8) : Option String :=
  (units32? order octets).map fun units => String.ofList (units.map scalar)

/-! ## Detection -/

/-- How a document is encoded, with the number of octets of its byte order mark. -/
inductive Encoding
  | utf8 (mark : Nat)
  | utf16 (order : OctetOrder) (mark : Nat)
  | utf32 (order : OctetOrder) (mark : Nat)
  deriving DecidableEq, Repr

/-- The byte order marks with the encodings that they show. Of two marks that begin alike the longer
one comes first. -/
def Encoding.marks : List (List UInt8 × Encoding) :=
  [([0x00, 0x00, 0xfe, 0xff], .utf32 .big 4), ([0xff, 0xfe, 0x00, 0x00], .utf32 .little 4),
    ([0xfe, 0xff], .utf16 .big 2), ([0xff, 0xfe], .utf16 .little 2),
    ([0xef, 0xbb, 0xbf], .utf8 3)]

/-- The encoding that the zeros among the first octets of a document without a mark show. -/
def Encoding.unmarked : List UInt8 → Encoding
  | [a, b] =>
    if a = 0 then .utf16 .big 0 else if b = 0 then .utf16 .little 0 else .utf8 0
  | a :: b :: c :: d :: _ =>
    if a = 0 then (if b = 0 then .utf32 .big 0 else .utf16 .big 0)
    else if b = 0 then (if c = 0 ∧ d = 0 then .utf32 .little 0 else .utf16 .little 0)
    else .utf8 0
  | _ => .utf8 0

/-- The encoding that the first octets of a document show. -/
def Encoding.detect (octets : List UInt8) : Encoding :=
  match marks.find? fun m => m.1.isPrefixOf octets with
  | some m => m.2
  | none => unmarked octets

/-- The text of a document in whichever encoding its octets show. -/
def decodeDocument? (octets : ByteArray) : Option String :=
  match Encoding.detect ((octets.extract 0 4).toList) with
  | .utf8 0 => utf8? octets
  | .utf8 mark => utf8? (octets.extract mark octets.size)
  | .utf16 order mark => utf16? order (octets.toList.drop mark)
  | .utf32 order mark => utf32? order (octets.toList.drop mark)

/-- Whether the octets of a document hold a surrogate that stands alone. -/
def holdsHalf (octets : ByteArray) : Bool :=
  match Encoding.detect ((octets.extract 0 4).toList) with
  | .utf8 mark => (String.fromUTF8? (octets.extract mark octets.size)).isNone
  | .utf16 order mark => (units16? order (octets.toList.drop mark)).any hasHalf
  | .utf32 order mark => (units32? order (octets.toList.drop mark)).any (·.any isSurrogate)

end TableExplorer.Text
