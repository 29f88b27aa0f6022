import TestWeaver.Text.Basic

/-!
Moments in the Gregorian calendar: which ones there are, and how one is written.
-/

namespace TestWeaver

structure Moment where
  year : Int
  month : Int
  day : Int
  hour : Int := 0
  minute : Int := 0
  second : Int := 0
  microsecond : Int := 0
  /-- Minutes ahead of universal time. -/
  offset : Option Int := none
deriving DecidableEq, Repr

namespace Moment

def isLeap (year : Int) : Bool := year % 4 = 0 && (year % 100 ≠ 0 || year % 400 = 0)

def daysIn (year month : Int) : Int :=
  if month = 2 then if isLeap year then 29 else 28
  else if month = 4 || month = 6 || month = 9 || month = 11 then 30
  else 31

def within (lo hi n : Int) : Bool := lo ≤ n && n ≤ hi

def number (n : Int) : Text := (toString n).toList

/-- Minutes as days and seconds, the seconds never negative. -/
def spanText (minutes : Int) : Text :=
  let days := minutes / 1440
  let seconds := minutes % 1440 * 60
  let parts :=
    (if days = 0 then [] else ["days=".toList ++ number days]) ++
    (if seconds = 0 then [] else ["seconds=".toList ++ number seconds])
  "datetime.timedelta(".toList ++
    (if parts = [] then ['0'] else List.intercalate ", ".toList parts) ++ [')']

/-- An offset is less than a day. -/
def offsetFault? (minutes : Int) : Option Text :=
  if within (-1439) 1439 minutes then none
  else some <|
    "offset must be a timedelta strictly between -timedelta(hours=24) and timedelta(hours=24), not ".toList
      ++ spanText minutes ++ ['.']

/-- The first part of a moment that is out of range. -/
def fault? (m : Moment) : Option Text :=
  (m.offset.bind offsetFault?).or <|
    if !within 1 9999 m.year then some ("year ".toList ++ number m.year ++ " is out of range".toList)
    else if !within 1 12 m.month then some "month must be in 1..12".toList
    else if !within 1 (daysIn m.year m.month) m.day then
      some "day is out of range for month".toList
    else if !within 0 23 m.hour then some "hour must be in 0..23".toList
    else if !within 0 59 m.minute then some "minute must be in 0..59".toList
    else if !within 0 59 m.second then some "second must be in 0..59".toList
    else if !within 0 999999 m.microsecond then some "microsecond must be in 0..999999".toList
    else none

/-- A number with zeros in front up to a width. -/
def padded (width : Nat) (n : Nat) : Text :=
  let ds := Nat.toDigits 10 n
  List.replicate (width - ds.length) '0' ++ ds

def offsetText (minutes : Int) : Text :=
  let n := minutes.natAbs
  (if minutes < 0 then '-' else '+') :: padded 2 (n / 60) ++ ':' :: padded 2 (n % 60)

/-- Date and time from the largest part to the smallest; no microseconds are written if there
are none. -/
def toText (m : Moment) : Text :=
  let part := fun w (n : Int) => padded w n.toNat
  part 4 m.year ++ '-' :: part 2 m.month ++ '-' :: part 2 m.day ++
    'T' :: part 2 m.hour ++ ':' :: part 2 m.minute ++ ':' :: part 2 m.second ++
    (if m.microsecond = 0 then [] else '.' :: part 6 m.microsecond) ++
    (m.offset.map offsetText).getD []

/-- The moment as a log shows it, to the millisecond. -/
def logText (m : Moment) : Text :=
  let part := fun w (n : Int) => padded w n.toNat
  part 4 m.year ++ '-' :: part 2 m.month ++ '-' :: part 2 m.day ++
    ' ' :: part 2 m.hour ++ ':' :: part 2 m.minute ++ ':' :: part 2 m.second ++
    ',' :: part 3 (m.microsecond / 1000)

/-- The moment in universal time so many seconds after the start of 1970. Years are counted from
March on, so that the day of a leap year comes last, and in groups of 400, which are equally
long. -/
def ofSeconds (seconds : Int) (microsecond : Int) : Moment :=
  let days := seconds / 86400 + 719468
  let rest := seconds % 86400
  let inGroup := days % 146097
  let years := (inGroup - inGroup / 1460 + inGroup / 36524 - inGroup / 146096) / 365
  let inYear := inGroup - (365 * years + years / 4 - years / 100)
  let fromMarch := (5 * inYear + 2) / 153
  let month := if fromMarch < 10 then fromMarch + 3 else fromMarch - 9
  { year := years + days / 146097 * 400 + (if month ≤ 2 then 1 else 0)
    month := month
    day := inYear - (153 * fromMarch + 2) / 5 + 1
    hour := rest / 3600, minute := rest % 3600 / 60, second := rest % 60
    microsecond := microsecond, offset := some 0 }

end Moment

end TestWeaver
