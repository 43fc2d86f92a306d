import TableExplorer.Text.Characters
import TableExplorer.Text.Quoted

/-!
# Dates and times of day

The proleptic Gregorian calendar from year 1 to 9999, days by ordinal number (the first of January
of year 1 is day 1), ISO weeks, and times of day with an optional offset from universal time. The
texts written here are those of ISO 8601: a fraction of six digits only where it is not zero, and
an offset in hours and minutes, with seconds only where there are any.
-/

namespace TableExplorer

namespace Calendar

/-! ## Days -/

/-- Whether February has 29 days. -/
def isLeap (year : Nat) : Bool := year % 4 = 0 && (year % 100 != 0 || year % 400 = 0)

def daysIn (year month : Nat) : Nat :=
  if month = 2 then (if isLeap year then 29 else 28)
  else if month = 4 || month = 6 || month = 9 || month = 11 then 30
  else 31

/-- The days before the first of January. -/
def daysBeforeYear (year : Nat) : Nat :=
  let y := year - 1
  y * 365 + y / 4 - y / 100 + y / 400

/-- The ordinal number of the first of January. -/
def newYear (year : Nat) : Nat := daysBeforeYear year + 1

/-- The weekday of a day, Monday being 0. -/
def weekday (ordinal : Nat) : Nat := (ordinal + 6) % 7

/-- The ordinal number of the Monday of ISO week 1: the week that holds the first Thursday. -/
def firstMonday (year : Nat) : Int :=
  let w := weekday (newYear year)
  (newYear year : Int) - w + if 3 < w then 7 else 0

def hasWeek53 (year : Nat) : Bool :=
  let w := weekday (newYear year)
  w = 3 || (w = 2 && isLeap year)

/-- Month and day of a day of the year, counted from zero. -/
def monthAndDay (year : Nat) : (months : List Nat) → (dayOfYear : Nat) → Nat × Nat
  | [], n => (12, n + 1)
  | m :: ms, n =>
    if n < daysIn year m then (m, n + 1) else monthAndDay year ms (n - daysIn year m)

end Calendar

structure Date where
  year : Nat
  month : Nat
  day : Nat
  deriving DecidableEq, Repr

def Date.ofOrdinal (ordinal : Nat) : Date :=
  let n := ordinal - 1
  let n400 := n / 146097
  let r400 := n % 146097
  let n100 := r400 / 36524
  let r100 := r400 % 36524
  let n4 := r100 / 1461
  let r4 := r100 % 1461
  let n1 := r4 / 365
  let r1 := r4 % 365
  let year := n400 * 400 + n100 * 100 + n4 * 4 + n1 + 1
  if n1 = 4 || n100 = 4 then { year := year - 1, month := 12, day := 31 }
  else
    let (month, day) := Calendar.monthAndDay year [1, 2, 3, 4, 5, 6, 7, 8, 9, 10, 11] r1
    { year, month, day }

/-- A time of day; the offset from universal time is in microseconds. -/
structure TimeOfDay where
  hour : Nat
  minute : Nat
  second : Nat
  microsecond : Nat
  offset : Option Int
  deriving DecidableEq, Repr

structure DateTime where
  date : Date
  time : TimeOfDay
  deriving DecidableEq, Repr

/-! ## Written forms -/

/-- `YYYY-MM-DD`. -/
def Date.text (d : Date) : String :=
  Text.padded 4 d.year ++ "-" ++ Text.padded 2 d.month ++ "-" ++ Text.padded 2 d.day

namespace Calendar

/-- Microseconds in a second. -/
def second : Nat := 1000000

/-- A fraction of a second, if there is one. -/
def fractionText (microseconds : Nat) : String :=
  if microseconds = 0 then "" else "." ++ Text.padded 6 microseconds

/-- An offset from universal time, `+HH:MM` and what else there is. -/
def offsetText (offset : Int) : String :=
  let n := offset.natAbs
  let seconds := n / second
  let micros := n % second
  (if offset < 0 then "-" else "+") ++ Text.padded 2 (seconds / 3600) ++ ":" ++
    Text.padded 2 (seconds / 60 % 60) ++
    (if seconds % 60 = 0 && micros = 0 then "" else ":" ++ Text.padded 2 (seconds % 60)) ++
    fractionText micros

end Calendar

/-- `HH:MM:SS`, with a fraction and an offset where there are any. -/
def TimeOfDay.text (t : TimeOfDay) : String :=
  Text.padded 2 t.hour ++ ":" ++ Text.padded 2 t.minute ++ ":" ++ Text.padded 2 t.second ++
    Calendar.fractionText t.microsecond ++ (t.offset.map Calendar.offsetText).getD ""

/-- Date and time joined by a `T`. -/
def DateTime.text (d : DateTime) : String := d.date.text ++ "T" ++ d.time.text

end TableExplorer
