import SchoolRegistry.Time.Date

/-!
# Times of day and moments

A `Wall` is what a calendar and a clock on the wall show. A `Stamp` adds the
distance to universal time and so names an instant; a `Moment` may lack it.
Stamps are compared as instants (`Stamp.instant`), walls by what they show, and
a moment without an offset cannot be compared with one that has it. A zone that
tells no offset is left out: a moment that has a zone has an offset.
-/

namespace SchoolRegistry

/-! ## Times of day -/

/-- Whether the parts make a time of day. -/
def isTimeOfDay (hour minute second micro : Nat) : Bool :=
  hour < 24 && minute < 60 && second < 60 && micro < 1000000

/-- A time of day, down to the microsecond. -/
structure TimeOfDay where
  hour : Nat
  minute : Nat
  second : Nat
  micro : Nat
  valid : isTimeOfDay hour minute second micro = true
deriving DecidableEq

namespace TimeOfDay

/-- The time with the given parts, if there is one. -/
def of? (hour minute second micro : Nat) : Option TimeOfDay :=
  if h : isTimeOfDay hour minute second micro = true then
    some ⟨hour, minute, second, micro, h⟩
  else none

/-- The start of a day. -/
def midnight : TimeOfDay := ⟨0, 0, 0, 0, by decide⟩

/-- The microseconds since the start of the day. -/
def micros (t : TimeOfDay) : Nat :=
  ((t.hour * 60 + t.minute) * 60 + t.second) * 1000000 + t.micro

/-- The time so many microseconds into a day. -/
def ofMicros? (n : Nat) : Option TimeOfDay :=
  let seconds := n / 1000000
  of? (seconds / 3600) (seconds / 60 % 60) (seconds % 60) (n % 1000000)

/-- The text `HH:MM:SS`, with six more digits if the fraction is not zero. -/
def toText (t : TimeOfDay) : String :=
  let whole := Text.padded 2 t.hour ++ ":" ++ Text.padded 2 t.minute ++ ":"
    ++ Text.padded 2 t.second
  if t.micro = 0 then whole else whole ++ "." ++ Text.padded 6 t.micro

end TimeOfDay

/-! ## Walls -/

/-- A day and a time of day. -/
structure Wall where
  date : Date
  time : TimeOfDay
deriving DecidableEq

/-- The microseconds of a day. -/
def dayMicros : Int := 86400000000

namespace Wall

/-- The microseconds since the start of 1970, as the wall shows them. -/
def micros (w : Wall) : Int :=
  ((w.date.ordinal : Int) - Date.epochOrdinal) * dayMicros + w.time.micros

/-- The wall so many microseconds after the start of 1970, if the calendar
reaches so far. -/
def ofMicros? (n : Int) : Option Wall := do
  let date ← Date.ofOrdinal? (n.fdiv dayMicros + Date.epochOrdinal)
  let time ← TimeOfDay.ofMicros? (n.fmod dayMicros).toNat
  some ⟨date, time⟩

/-- The text of day and time with the given text between them. -/
def toText (between : String) (w : Wall) : String :=
  w.date.toText ++ between ++ w.time.toText

/-- The text a column of moments holds: day and time to the microsecond. -/
def columnText (w : Wall) : String :=
  w.date.toText ++ " " ++ Text.padded 2 w.time.hour ++ ":" ++ Text.padded 2 w.time.minute ++ ":"
    ++ Text.padded 2 w.time.second ++ "." ++ Text.padded 6 w.time.micro

end Wall

/-! ## Offsets -/

/-- The text `+HH:MM` of an offset in microseconds, with seconds and then
microseconds only if they are not zero. -/
def offsetText (offset : Int) : String :=
  let size := offset.natAbs
  let seconds := size / 1000000
  let base := (if offset < 0 then "-" else "+") ++ Text.padded 2 (seconds / 3600) ++ ":"
    ++ Text.padded 2 (seconds / 60 % 60)
  if seconds % 60 = 0 && size % 1000000 = 0 then base
  else if size % 1000000 = 0 then base ++ ":" ++ Text.padded 2 (seconds % 60)
  else base ++ ":" ++ Text.padded 2 (seconds % 60) ++ "." ++ Text.padded 6 (size % 1000000)

/-! ## Stamps -/

/-- A wall with its distance to universal time in microseconds, positive to
the east. -/
structure Stamp where
  wall : Wall
  offset : Int
deriving DecidableEq

namespace Stamp

/-- A wall read as universal time. -/
def utc (w : Wall) : Stamp := ⟨w, 0⟩

/-- The instant, in microseconds since the start of 1970 in universal time. -/
def instant (s : Stamp) : Int := s.wall.micros - s.offset

/-- Whether one stamp is not later than another. -/
def notAfter (a b : Stamp) : Bool := a.instant ≤ b.instant

/-- The text of the stamp with its offset. -/
def toText (s : Stamp) : String := s.wall.toText "T" ++ offsetText s.offset

end Stamp

/-! ## Moments -/

/-- A wall, with or without an offset. -/
inductive Moment where
  | floating (wall : Wall)
  | fixed (stamp : Stamp)
deriving DecidableEq

namespace Moment

/-- What the wall shows. -/
def wall : Moment → Wall
  | floating w => w
  | fixed s => s.wall

/-- The moment as an instant; without an offset it is read as universal time. -/
def assumeUtc : Moment → Stamp
  | floating w => .utc w
  | fixed s => s

/-- The order of two moments, if they can be compared. -/
def compare? : Moment → Moment → Option Ordering
  | floating a, floating b => some (Ord.compare a.micros b.micros)
  | fixed a, fixed b => some (Ord.compare a.instant b.instant)
  | _, _ => none

/-- The text of the moment with the given text between day and time. -/
def toTextWith (between : String) : Moment → String
  | floating w => w.toText between
  | fixed s => s.wall.toText between ++ offsetText s.offset

/-- The text of the moment. -/
def toText (m : Moment) : String := m.toTextWith "T"

/-- The text of the moment in exchanged documents, where universal time is
marked by a letter and an offset has hours and minutes only. -/
def documentText : Moment → String
  | floating w => w.toText "T"
  | fixed s =>
    if s.offset = 0 then s.wall.toText "T" ++ "Z"
    else
      let minutes := s.offset.natAbs / 60000000
      s.wall.toText "T" ++ (if s.offset < 0 then "-" else "+") ++ Text.padded 2 (minutes / 60)
        ++ ":" ++ Text.padded 2 (minutes % 60)

end Moment

end SchoolRegistry
