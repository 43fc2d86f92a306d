import TableExplorer.Double.Basic
import TableExplorer.QueryState.Complaint
import TableExplorer.Text.Characters

/-!
# Integers that a client sends

An integer may come as a JSON integer, as a boolean, as a double without a fraction, or as a text:
white space around, an optional sign, ASCII digits with single underscores between them, and
perhaps a point followed by zeros only. Bounds are checked afterwards.
-/

namespace TableExplorer.Checked

/-- The most characters of a text that spells an integer. -/
def maxIntegerText : Nat := 4300

/-- The largest size of a double that is taken for an integer: the 63rd power of two. -/
def integerDoubleBound : Int := 9223372036854775808

/-- Drop a fraction of zeros: a point and at least one zero, and nothing else. -/
def withoutZeroFraction (cs : List Char) : List Char :=
  match cs.dropWhile (· != '.') with
  | '.' :: zero :: zeros =>
    if (zero :: zeros).all (· == '0') then cs.takeWhile (· != '.') else cs
  | _ => cs

/-- The integer that a text spells. -/
def integerOfText (s : String) : Except Complaint.Cause Int :=
  let cs := Text.trimBoth Text.isWhiteSpace s.toList
  if maxIntegerText < cs.length then .error .oversizedInteger
  else
    let (negative, body) := Text.splitSign cs
    match Text.groupedDigits? Text.asciiDigit? (withoutZeroFraction body) with
    | some ds => .ok (Text.signed negative (Text.ofDigits ds))
    | none => .error .unreadableInteger

/-- The integer that a double is. -/
def integerOfDouble (d : Double) : Except Complaint.Cause Int :=
  if !d.isFinite then .error .notFinite
  else match d.toInt? with
    | none => .error .fractionalInteger
    | some i =>
      if -integerDoubleBound < i ∧ i < integerDoubleBound then .ok i
      else .error .oversizedInteger

def integer (v : Value) : Checked Int :=
  let result : Except Complaint.Cause Int := match v with
    | .int i => .ok i
    | .bool b => .ok (if b then 1 else 0)
    | .real d => integerOfDouble d
    | .text s => integerOfText s
    | _ => .error .notInteger
  match result with
  | .ok i => .ok i
  | .error cause => refuse cause v

/-- Read an integer that is at least `low` and, where there is a bound, at most `high`. -/
def integerBetween (low : Int) (high : Option Int) (v : Value) : Checked Int :=
  match integer v with
  | .error cs => .error cs
  | .ok i =>
    match high with
    | some h =>
      if h < i then refuse (.above h) v else if i < low then refuse (.below low) v else .ok i
    | none => if i < low then refuse (.below low) v else .ok i

def natural (v : Value) : Checked Nat :=
  match integer v with
  | .error cs => .error cs
  | .ok i => if i < 0 then refuse (.below 0) v else .ok i.toNat

def positive (v : Value) : Checked { n : Nat // 0 < n } :=
  match integer v with
  | .error cs => .error cs
  | .ok i => if h : 0 < i then .ok ⟨i.toNat, by omega⟩ else refuse (.notAbove 0) v

end TableExplorer.Checked
