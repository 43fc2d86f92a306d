import TableExplorer.Calendar.Basic

/-!
# Reading dates and times

The forms of ISO 8601 that a date, a time of day or both together are read from: the extended form
with separators and the basic one without, week dates, a fraction behind a point or a comma of
which six digits count, and an offset or a `Z`. A text that has none of these forms is malformed;
a part that is out of its range is a fault of its own, and the offset is checked before the parts.

Positions in a text are counted in octets.
-/

namespace TableExplorer.Calendar

/-! ## Faults -/

/-- Why a cell holds no date or time. -/
inductive Fault
  | notText
  | malformed (text : String)
  | year (year : Nat)
  | month
  | day
  | hour
  | minute
  | second
  | offset (microseconds : Int)
  deriving DecidableEq, Repr

/-- A span of time by its days, seconds and microseconds, of which only the first may be
negative. -/
def spanText (microseconds : Int) : String :=
  let days := microseconds / (86400 * second : Nat)
  let rest := microseconds % (86400 * second : Nat)
  let parts := [("days=", days), ("seconds=", rest / (second : Int)),
    ("microseconds=", rest % (second : Int))].filter fun p => p.2 != 0
  "datetime.timedelta(" ++
    (if parts.isEmpty then "0"
     else String.intercalate ", " (parts.map fun p => p.1 ++ Text.ofInt p.2)) ++ ")"

def Fault.message : Fault → String
  | notText => "fromisoformat: argument must be str"
  | malformed text => "Invalid isoformat string: " ++ Text.quoted text
  | year y => "year " ++ Nat.repr y ++ " is out of range"
  | month => "month must be in 1..12"
  | day => "day is out of range for month"
  | hour => "hour must be in 0..23"
  | minute => "minute must be in 0..59"
  | second => "second must be in 0..59"
  | offset microseconds =>
    "offset must be a timedelta strictly between -timedelta(hours=24) and timedelta(hours=24), not " ++
      spanText microseconds ++ "."

/-- A text by its octets, each as the character of that number. -/
def octetChars (s : String) : List Char :=
  s.toUTF8.toList.map fun b => Char.ofNat b.toNat

/-- Exactly `count` digits at the front of a text. -/
def digits? : (count : Nat) → List Char → Option (Nat × List Char) :=
  fun count cs =>
    let front := cs.take count
    if front.length = count && front.all Text.isAsciiDigit then
      some (Text.ofDigits (front.map fun c => c.toNat - 48), cs.drop count)
    else none

/-! ## Dates -/

abbrev DateParts := Nat × Nat × Nat

/-- The date of a day of an ISO week. The weeks of year zero belong to no month. -/
def ofWeek? (year week day : Nat) : Option DateParts :=
  if week = 0 || 53 < week || (week = 53 && !hasWeek53 year) then none
  else if day = 0 || 7 < day then none
  else if year = 0 then some (1, 0, 0)
  else
    let ordinal := firstMonday year + ((week : Int) - 1) * 7 + day - 1
    let d := Date.ofOrdinal ordinal.toNat
    some (d.year, d.month, d.day)

/-- A week date behind its `W`; the day may be missing and is the first then. -/
def weekParts? (separated : Bool) (year : Nat) (cs : List Char) : Option DateParts := do
  let (week, cs) ← digits? 2 cs
  if cs.isEmpty then ofWeek? year week 1
  else
    let cs ← if separated then (if cs.head? = some '-' then some cs.tail else none) else some cs
    let (day, _) ← digits? 1 cs
    ofWeek? year week day

/-- The parts of a date. What follows a complete date is not looked at. -/
def dateParts? (cs : List Char) : Option DateParts := do
  let (year, cs) ← digits? 4 cs
  let separated := cs.head? = some '-'
  let cs := if separated then cs.tail else cs
  if cs.head? = some 'W' then weekParts? separated year cs.tail
  else
    let (month, cs) ← digits? 2 cs
    let cs ← if separated then (if cs.head? = some '-' then some cs.tail else none) else some cs
    let (day, _) ← digits? 2 cs
    return (year, month, day)

def checkDate (parts : DateParts) : Except Fault Date :=
  let (year, month, day) := parts
  if year = 0 || 9999 < year then .error (.year year)
  else if month = 0 || 12 < month then .error .month
  else if day = 0 || daysIn year month < day then .error .day
  else .ok { year, month, day }

/-- Read a date, of 7, 8 or 10 octets. -/
def readDate (s : String) : Except Fault Date :=
  let cs := octetChars s
  if cs.length = 7 || cs.length = 8 || cs.length = 10 then
    match dateParts? cs with
    | some parts => checkDate parts
    | none => .error (.malformed s)
  else .error (.malformed s)

/-! ## Times of day -/

/-- Hour, minute, second and microsecond, and whether nothing stood behind them. -/
structure ClockParts where
  parts : List Nat
  microsecond : Nat
  complete : Bool

/-- The part at place `i`, zero where it was not given. -/
def ClockParts.part (c : ClockParts) (i : Nat) : Nat := c.parts.getD i 0

/-- A fraction: its first six digits count, the rest are dropped. -/
def fractionParts? (parts : List Nat) (followed : Bool) (cs : List Char) : Option ClockParts :=
  let counted := min 6 cs.length
  match digits? counted cs with
  | none => none
  | some (n, rest) =>
    let rest := rest.dropWhile Text.isAsciiDigit
    some { parts, microsecond := n * Nat.pow 10 (6 - counted),
           complete := rest.isEmpty && !followed }

/-- Hours, minutes and seconds, of which `left` may still come, then perhaps a fraction.
`followed` tells whether an offset stands behind the text. -/
def clockParts? (followed : Bool) :
    (left : Nat) → (separated : Option Bool) → (parts : List Nat) → List Char → Option ClockParts
  | 0, _, parts, cs => fractionParts? parts followed cs
  | left + 1, separated, parts, cs => do
    let (n, cs) ← digits? 2 cs
    let parts := parts ++ [n]
    let separated := separated.getD (cs.head? = some ':')
    match cs with
    | [] => return { parts, microsecond := 0, complete := !followed }
    | [_] => return { parts, microsecond := 0, complete := false }
    | c :: rest =>
      if separated && c = ':' then clockParts? followed left (some separated) parts rest
      else if c = '.' || c = ',' then fractionParts? parts followed rest
      else if !separated then clockParts? followed left (some separated) parts cs
      else none

structure TimeParts where
  clock : ClockParts
  offset : Option Int

def beginsOffset (c : Char) : Bool := c = '+' || c = '-' || c = 'Z'

/-- The parts of a time of day. An offset of less than a second counts as none at all. -/
def timeParts? (cs : List Char) : Option TimeParts := do
  let front := cs.takeWhile fun c => !beginsOffset c
  match cs.dropWhile fun c => !beginsOffset c with
  | [] =>
    let clock ← clockParts? false 3 none [] front
    if clock.complete then some { clock, offset := none } else none
  | sign :: rest =>
    let clock ← clockParts? true 3 none [] front
    if sign = 'Z' then
      if rest.isEmpty then some { clock, offset := some 0 } else none
    else
      let o ← clockParts? false 3 none [] rest
      if o.complete then
        let seconds := o.part 0 * 3600 + o.part 1 * 60 + o.part 2
        let size : Int := if seconds = 0 then 0 else (seconds * second + o.microsecond : Nat)
        some { clock, offset := some (if sign = '-' then -size else size) }
      else none

/-- An offset must be less than a day. -/
def checkOffset : Option Int → Except Fault Unit
  | none => .ok ()
  | some o => if o.natAbs < 86400 * second then .ok () else .error (.offset o)

def checkTime (t : TimeParts) : Except Fault TimeOfDay :=
  let hour := t.clock.part 0
  let minute := t.clock.part 1
  let sec := t.clock.part 2
  if 23 < hour then .error .hour
  else if 59 < minute then .error .minute
  else if 59 < sec then .error .second
  else .ok { hour, minute, second := sec, microsecond := t.clock.microsecond, offset := t.offset }

/-- Read a time of day, perhaps behind a `T`. -/
def readTime (s : String) : Except Fault TimeOfDay :=
  let cs := octetChars s
  let cs := if cs.head? = some 'T' then cs.tail else cs
  match timeParts? cs with
  | none => .error (.malformed s)
  | some t => do
    checkOffset t.offset
    checkTime t

/-! ## Dates with times -/

def digitAt (cs : List Char) (i : Nat) : Bool := (cs[i]?.map Text.isAsciiDigit).getD false

/-- Where the date ends in a text of date and time; the form of the date tells. -/
def separatorAt (cs : List Char) : Nat :=
  let n := cs.length
  if n = 7 then 7
  else if cs[4]? = some '-' then
    if cs[5]? = some 'W' then
      if n < 8 then 0
      else if cs[8]? = some '-' then
        if n = 9 then 0 else if digitAt cs 10 then 8 else 10
      else 8
    else 10
  else if cs[4]? = some 'W' then
    let stop := 7 + ((cs.drop 7).takeWhile Text.isAsciiDigit).length
    if stop < 9 then stop else if stop % 2 = 0 then 7 else 8
  else 8

/-- The number of octets of the separator that begins with a given one. -/
def separatorLength (c : Char) : Nat :=
  let n := c.toNat
  if n < 0x80 then 1 else if n / 16 = 0xe then 3 else if n / 16 = 0xf then 4 else 2

/-- Midnight, for a date without a time. -/
def midnight : TimeParts :=
  { clock := { parts := [], microsecond := 0, complete := true }, offset := none }

def dateTimeParts? (cs : List Char) : Option (DateParts × TimeParts) := do
  if cs.length < 7 then none
  else
    let stop := separatorAt cs
    let date ← dateParts? (cs.take stop)
    match cs.drop stop with
    | [] => return (date, midnight)
    | c :: rest =>
      let time ← timeParts? ((c :: rest).drop (separatorLength c))
      return (date, time)

def readDateTime (s : String) : Except Fault DateTime :=
  match dateTimeParts? (octetChars s) with
  | none => .error (.malformed s)
  | some (date, time) => do
    checkOffset time.offset
    let date ← checkDate date
    let time ← checkTime time
    return { date, time }

end TableExplorer.Calendar
