/-! # Dates and times

Which texts are a date, a time of day, or both. A time that follows a date may say how far it is
from universal time; one that stands alone may not. Dates are days of the calendar that counts leap
years, also for the years before it was introduced.
-/

namespace ProjectionPlanner.Toml

/-- Read a number of `count` digits. -/
def fixedDigits? : Nat → List Char → Option (Nat × List Char)
  | 0, chars => some (0, chars)
  | _ + 1, [] => none
  | count + 1, c :: rest =>
      if c.isDigit then
        (fixedDigits? count rest).map fun (value, after) =>
          ((c.toNat - '0'.toNat) * 10 ^ count + value, after)
      else
        none

/-- Skip a character. -/
def skipMark? (mark : Char) : List Char → Option (List Char)
  | [] => none
  | c :: rest => if c == mark then some rest else none

def isLeapYear (year : Nat) : Bool :=
  year % 4 == 0 && (year % 100 != 0 || year % 400 == 0)

/-- The number of days of a month, counted from 1. -/
def daysInMonth (year month : Nat) : Nat :=
  if month == 2 then (if isLeapYear year then 29 else 28)
  else if month == 4 || month == 6 || month == 9 || month == 11 then 30
  else 31

/-- Skip a date, as in `1979-05-27`. -/
def skipDate? (chars : List Char) : Option (List Char) := do
  let (year, rest) ← fixedDigits? 4 chars
  let rest ← skipMark? '-' rest
  let (month, rest) ← fixedDigits? 2 rest
  let rest ← skipMark? '-' rest
  let (day, rest) ← fixedDigits? 2 rest
  if 1 ≤ month && month ≤ 12 && 1 ≤ day && day ≤ daysInMonth year month then some rest else none

/-- Skip the hours and minutes of a day. -/
def skipMinutes? (chars : List Char) : Option (List Char) := do
  let (hour, rest) ← fixedDigits? 2 chars
  let rest ← skipMark? ':' rest
  let (minute, rest) ← fixedDigits? 2 rest
  if hour ≤ 23 && minute ≤ 59 then some rest else none

/-- Skip a fraction of a second, if there is one. -/
def skipSecondFraction? : List Char → Option (List Char)
  | '.' :: rest => if rest.head?.any Char.isDigit then some (rest.dropWhile Char.isDigit) else none
  | chars => some chars

/-- Skip the seconds, if there are any. There may be a leap second. -/
def skipSeconds? : List Char → Option (List Char)
  | ':' :: rest =>
      (fixedDigits? 2 rest).bind fun (second, after) =>
        if second ≤ 60 then skipSecondFraction? after else none
  | chars => some chars

/-- Skip a time of day, as in `07:32` or `07:32:00.5`. -/
def skipTime? (chars : List Char) : Option (List Char) :=
  (skipMinutes? chars).bind skipSeconds?

/-- A distance from universal time, which may be left out. -/
def isOffset : List Char → Bool
  | [] => true
  | ['Z'] => true
  | ['z'] => true
  | '+' :: rest => skipMinutes? rest == some []
  | '-' :: rest => skipMinutes? rest == some []
  | _ => false

/-- The character parts a date from its time. -/
def partsTime (c : Char) : Bool :=
  c == 'T' || c == 't' || c == ' '

/-- The text is a date, a time, or both. -/
def isMoment (chars : List Char) : Bool :=
  match skipDate? chars with
  | some [] => true
  | some (mark :: rest) => partsTime mark && (skipTime? rest).any isOffset
  | none => skipTime? chars == some []

end ProjectionPlanner.Toml
