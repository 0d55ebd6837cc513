import SchoolRegistry.Text.Digit

/-!
# Calendar days

Days of the Gregorian calendar from year 1 to year 9999, extended backwards
before its introduction. A `Date` carries the proof that it names a real day,
so no operation has to consider a thirtieth of February. Days are counted by
`Date.ordinal`, which gives 1 to the first of January of year 1.
-/

namespace SchoolRegistry

/-- Whether a year has a twenty-ninth of February. -/
def isLeapYear (year : Nat) : Bool :=
  year % 4 == 0 && (year % 100 != 0 || year % 400 == 0)

/-- The number of days of a month, and zero for a month that does not exist. -/
def monthLength (year month : Nat) : Nat :=
  match month with
  | 1 | 3 | 5 | 7 | 8 | 10 | 12 => 31
  | 4 | 6 | 9 | 11 => 30
  | 2 => if isLeapYear year then 29 else 28
  | _ => 0

/-- Whether year, month and day name a day of the calendar. -/
def isCalendarDay (year month day : Nat) : Bool :=
  1 ≤ year && year ≤ 9999 && 1 ≤ month && month ≤ 12 && 1 ≤ day && day ≤ monthLength year month

/-- A day of the calendar. -/
structure Date where
  year : Nat
  month : Nat
  day : Nat
  valid : isCalendarDay year month day = true
deriving DecidableEq

namespace Date

/-- The day with the given parts, if there is one. -/
def of? (year month day : Nat) : Option Date :=
  if h : isCalendarDay year month day = true then some ⟨year, month, day, h⟩ else none

/-! ## Counting days -/

/-- The number of days in the years before the given one. -/
def daysBeforeYear (year : Nat) : Nat :=
  let y := year - 1
  y * 365 + y / 4 - y / 100 + y / 400

/-- The number of days of the year before the given month. -/
def daysBeforeMonth (year : Nat) : Nat → Nat
  | 0 => 0
  | month + 1 => daysBeforeMonth year month + monthLength year month

/-- The number of the day, counted from the first of January of year 1. -/
def ordinal (d : Date) : Nat :=
  daysBeforeYear d.year + daysBeforeMonth d.year d.month + d.day

/-- The month that holds the day of the year with the given number, and the
day of that month: months are passed by from the given one on. -/
def monthOfDay (year : Nat) : Nat → Nat → Nat → Nat × Nat
  | 0, month, day => (month, day)
  | fuel + 1, month, day =>
    if day ≤ monthLength year month then (month, day)
    else monthOfDay year fuel (month + 1) (day - monthLength year month)

/-- The year that holds the day with the given number counted from zero. -/
def yearOfOrdinal (n : Nat) : Nat :=
  let cycles := n / 146097
  let n := n % 146097
  let centuries := min (n / 36524) 3
  let n := n - centuries * 36524
  let fours := n / 1461
  let n := n % 1461
  cycles * 400 + centuries * 100 + fours * 4 + min (n / 365) 3 + 1

/-- The day with the given number, if the calendar reaches so far. -/
def ofOrdinal? (n : Int) : Option Date :=
  if n < 1 then none
  else
    let n := n.toNat
    let year := yearOfOrdinal (n - 1)
    let (month, day) := monthOfDay year 11 1 (n - daysBeforeYear year)
    of? year month day

/-- The number of the first of January 1970. -/
def epochOrdinal : Int := 719163

/-! ## Weeks -/

/-- The number of the Monday of the week of a year that holds its first
Thursday, which is the first week of the year. -/
def firstMonday (year : Nat) : Int :=
  let newYear : Int := daysBeforeYear year + 1
  let weekday := (newYear + 6) % 7
  let monday := newYear - weekday
  if weekday > 3 then monday + 7 else monday

/-- Whether a year has a fifty-third week: one that starts on a Thursday, or a
leap year that starts on a Wednesday. -/
def hasLongCount (year : Nat) : Bool :=
  let weekday := (daysBeforeYear year + 1) % 7
  weekday == 4 || (weekday == 3 && isLeapYear year)

/-- The day with the given weekday, Monday being 1, in a week of a year. -/
def ofWeek? (year week weekday : Nat) : Option Date :=
  let inYear := 1 ≤ week && (week ≤ 52 || (week == 53 && hasLongCount year))
  if 1 ≤ year && inYear && 1 ≤ weekday && weekday ≤ 7 then
    ofOrdinal? (firstMonday year + ((week - 1) * 7 + (weekday - 1) : Nat))
  else none

/-! ## Order and text -/

/-- The order of two days. -/
def compare (a b : Date) : Ordering := Ord.compare a.ordinal b.ordinal

/-- The text `YYYY-MM-DD`. -/
def toText (d : Date) : String :=
  Text.padded 4 d.year ++ "-" ++ Text.padded 2 d.month ++ "-" ++ Text.padded 2 d.day

end Date

end SchoolRegistry
