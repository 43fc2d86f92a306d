/-!
# Characters

White space, letters and decimal digits, and the integers that are written with digits.

Two sets of white space are in use. `isWhiteSpace` is the Unicode property White_Space, which
surrounds a number that a client writes as text. `isBlank` adds the four information separators
U+001C to U+001F; it is what is trimmed from the members of an in-list and from error texts.

Outside ASCII only two characters have ASCII letters in their lower-case form: the Kelvin sign,
whose lower case is `k`, and the dotted capital I, whose lower case is `i` followed by a combining
dot. `lowered` maps these two and the ASCII letters, so that a search for an ASCII word in it finds
exactly the words of the lower-cased text.

`digitValue?` knows every decimal digit of Unicode (the general category Nd), whose members come
in runs of ten from zero to nine. `readInt?` reads an integer written with them: blanks around,
an optional sign, and single underscores allowed between digits. `ofInt` writes an integer.
-/

namespace TableExplorer.Text

/-! ## White space -/

/-- The Unicode property White_Space. -/
def isWhiteSpace (c : Char) : Bool :=
  let n := c.toNat
  (9 ≤ n && n ≤ 13) || n == 32 || n == 0x85 || n == 0xa0 || n == 0x1680 ||
    (0x2000 ≤ n && n ≤ 0x200a) || n == 0x2028 || n == 0x2029 || n == 0x202f || n == 0x205f ||
    n == 0x3000

/-- White space or one of the separators U+001C to U+001F. -/
def isBlank (c : Char) : Bool :=
  isWhiteSpace c || (0x1c ≤ c.toNat && c.toNat ≤ 0x1f)

/-- Drop the characters of a class from both ends. -/
def trimBoth (isDropped : Char → Bool) (cs : List Char) : List Char :=
  ((cs.dropWhile isDropped).reverse.dropWhile isDropped).reverse

/-- The text without blanks at either end. -/
def strip (s : String) : String := String.ofList (trimBoth isBlank s.toList)

/-! ## Letters -/

/-- Lower case for the letters `A` to `Z`. -/
def asciiLower (c : Char) : Char :=
  if 'A' ≤ c ∧ c ≤ 'Z' then Char.ofNat (c.toNat + 32) else c

def asciiLowered (s : String) : String := s.map asciiLower

/-- The lower-case form of a character as far as ASCII letters occur in it. -/
def loweredChar (c : Char) : List Char :=
  if c = '\u212a' then ['k']
  else if c = '\u0130' then ['i', '\u0307']
  else [asciiLower c]

/-- A text in lower case, as far as ASCII letters are concerned. -/
def lowered (s : String) : String := String.ofList (s.toList.flatMap loweredChar)

/-- Upper case for the letters `a` to `z`. -/
def asciiUpper (c : Char) : Char :=
  if 'a' ≤ c ∧ c ≤ 'z' then Char.ofNat (c.toNat - 32) else c

/-- Whether `part` stands in `whole` as a contiguous run. -/
def isPart (part : List Char) : List Char → Bool
  | [] => part.isEmpty
  | c :: whole => part.isPrefixOf (c :: whole) || isPart part whole

/-- Whether the text `part` occurs in the text `s`. -/
def occursIn (part s : String) : Bool := isPart part.toList s.toList

/-! ## Digits -/

/-- The zeros of the runs of ten decimal digits. -/
def digitZeros : List Nat :=
  [48, 1632, 1776, 1984, 2406, 2534, 2662, 2790, 2918, 3046, 3174, 3302, 3430, 3558, 3664, 3792,
    3872, 4160, 4240, 6112, 6160, 6470, 6608, 6784, 6800, 6992, 7088, 7232, 7248, 42528, 43216,
    43264, 43472, 43504, 43600, 44016, 65296, 66720, 68912, 69734, 69872, 69942, 70096, 70384,
    70736, 70864, 71248, 71360, 71472, 71904, 72016, 72784, 73040, 73120, 92768, 92864, 93008,
    120782, 120792, 120802, 120812, 120822, 123200, 123632, 125264, 130032]

/-- The value of a decimal digit of any script. -/
def digitValue? (c : Char) : Option Nat :=
  (digitZeros.find? fun z => z ≤ c.toNat && c.toNat < z + 10).map fun z => c.toNat - z

def asciiDigit? (c : Char) : Option Nat :=
  if '0' ≤ c ∧ c ≤ '9' then some (c.toNat - 48) else none

def isAsciiDigit (c : Char) : Bool := '0' ≤ c && c ≤ '9'

/-- The number that a list of digit values spells in base ten. -/
def ofDigits (ds : List Nat) : Nat := ds.foldl (fun n d => n * 10 + d) 0

/-- The digits of a run in which single underscores may stand between digits. -/
def groupedDigits? (digit : Char → Option Nat) : List Char → Option (List Nat)
  | [] => none
  | [c] => (digit c).map fun d => [d]
  | c :: '_' :: rest => do return (← digit c) :: (← groupedDigits? digit rest)
  | c :: rest => do return (← digit c) :: (← groupedDigits? digit rest)

/-- Split an optional sign off: whether it is a minus, and the rest. -/
def splitSign : List Char → Bool × List Char
  | '-' :: cs => (true, cs)
  | '+' :: cs => (false, cs)
  | cs => (false, cs)

/-- The integer with the sign `negative` and the size `n`. -/
def signed (negative : Bool) (n : Nat) : Int := if negative then -(n : Int) else n

/-- The integer that a text spells, or `none`. -/
def readInt? (s : String) : Option Int :=
  let (negative, cs) := splitSign (trimBoth isWhiteSpace s.toList)
  (groupedDigits? digitValue? cs).map fun ds => signed negative (ofDigits ds)

/-- An integer in decimal notation. -/
def ofInt (i : Int) : String :=
  if i < 0 then "-" ++ Nat.repr i.natAbs else Nat.repr i.natAbs

/-- A number in at least `width` decimal digits, filled with zeros on the left. -/
def padded (width n : Nat) : String :=
  let ds := Nat.repr n
  String.ofList (List.replicate (width - ds.length) '0') ++ ds

end TableExplorer.Text
