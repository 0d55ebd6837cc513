import SchoolRegistry.Number.Double
import SchoolRegistry.Time.Moment

/-!
# Lenient texts and numbers for days and moments

The forms in which clients send days and moments: the extended format only,
with some freedom in the character between day and time, in the seconds and in
the offset, or a number of seconds since 1970 in universal time. Counts beyond
twenty thousand million are taken for milliseconds.
-/

namespace SchoolRegistry.Lenient

open Text

/-! ## Parts -/

/-- The number in two digits at the front, and the rest. -/
def two? : List Char → Option (Nat × List Char)
  | a :: b :: rest => do
    let x ← plainDigit? a
    let y ← plainDigit? b
    some (10 * x + y, rest)
  | _ => none

/-- Year, month and day at the front in the form `YYYY-MM-DD`, and the rest. -/
def calendarParts? (cs : List Char) : Option ((Nat × Nat × Nat) × List Char) := do
  let (y, rest) ← two? cs
  let (z, rest) ← two? rest
  match rest with
  | '-' :: rest =>
    let (month, rest) ← two? rest
    match rest with
    | '-' :: rest =>
      let (day, rest) ← two? rest
      some ((100 * y + z, month, day), rest)
    | _ => none
  | _ => none

/-- The microseconds in the digits of a fraction: six of them count. -/
def fractionMicros (ds : List Char) : Nat :=
  number (ds.take 6) * Nat.pow 10 (6 - ds.length)

/-- Seconds and their fraction at the front, if a colon opens them. -/
def seconds? : List Char → Option ((Nat × Nat) × List Char)
  | ':' :: rest => do
    let (second, rest) ← two? rest
    match rest with
    | c :: more =>
      if c == '.' || c == ',' then
        let ds := more.takeWhile isPlainDigit
        if ds.isEmpty then none
        else some ((second, fractionMicros ds), more.drop ds.length)
      else some ((second, 0), rest)
    | [] => some ((second, 0), [])
  | rest => some ((0, 0), rest)

/-- A time of day at the front, and the rest. -/
def time? (cs : List Char) : Option (TimeOfDay × List Char) := do
  let (hour, rest) ← two? cs
  match rest with
  | ':' :: rest =>
    let (minute, rest) ← two? rest
    let ((second, micro), rest) ← seconds? rest
    let time ← TimeOfDay.of? hour minute second micro
    some (time, rest)
  | _ => none

/-- Hours and minutes of an offset, with or without a colon between them. -/
def offsetParts? (cs : List Char) : Option (Nat × Nat) := do
  let (hours, rest) ← two? cs
  let (minutes, rest) ← two? (match rest with | ':' :: rest => rest | rest => rest)
  if rest.isEmpty && hours < 24 && minutes < 60 then some (hours, minutes) else none

/-- The offset that makes up the given characters, in microseconds; `none`
inside if there is none. -/
def offset? : List Char → Option (Option Int)
  | [] => some none
  | ['Z'] => some (some 0)
  | ['z'] => some (some 0)
  | c :: rest =>
    if c == '+' then (offsetParts? rest).map fun p => some (micros p)
    else if c == '-' || c == '\u2212' then (offsetParts? rest).map fun p => some (-(micros p))
    else none
where
  /-- The microseconds of an offset. -/
  micros (p : Nat × Nat) : Int := ((p.1 * 60 + p.2 : Nat) : Int) * 60000000

/-! ## Texts -/

/-- What a text says about a day or a moment. -/
inductive Reading (α : Type) where
  /-- It denotes this one. -/
  | read (value : α)
  /-- It has the right form and names the year before year 1. -/
  | beforeCalendar
  /-- It has no form known here. -/
  | unreadable
deriving DecidableEq

/-- The reading of the parts of a day. -/
def dateOfParts (p : Nat × Nat × Nat) : Reading Date :=
  match Date.of? p.1 p.2.1 p.2.2 with
  | some d => .read d
  | none =>
    if p.1 = 0 && (Date.of? 4 p.2.1 p.2.2).isSome then .beforeCalendar else .unreadable

/-- The day a text of the form `YYYY-MM-DD` denotes. -/
def date (s : String) : Reading Date :=
  match calendarParts? s.toList with
  | some (parts, []) => dateOfParts parts
  | _ => .unreadable

/-- Whether a character may stand between day and time. -/
def separates (c : Char) : Bool := c == 'T' || c == 't' || c == '_' || c == ' '

/-- The moment given by a wall and perhaps an offset. -/
def momentOf (w : Wall) : Option Int → Moment
  | none => .floating w
  | some offset => .fixed ⟨w, offset⟩

/-- Time and offset that follow a day. -/
def clock? (cs : List Char) : Option (TimeOfDay × Option Int) := do
  let (time, rest) ← time? cs
  let offset ← offset? rest
  some (time, offset)

/-- The moment a text with a day, a time and perhaps an offset denotes; a day
alone is its start. -/
def moment (s : String) : Reading Moment :=
  match calendarParts? s.toList with
  | none => .unreadable
  | some (parts, rest) =>
    match dateOfParts parts, rest with
    | .unreadable, _ => .unreadable
    | .beforeCalendar, [] => .beforeCalendar
    | .read d, [] => .read (.floating ⟨d, .midnight⟩)
    | d, c :: rest =>
      match if separates c then clock? rest else none with
      | none => .unreadable
      | some (time, offset) =>
        match d with
        | .read d => .read (momentOf ⟨d, time⟩ offset)
        | _ => .beforeCalendar

/-! ## Numbers -/

/-- The count above which seconds are taken for milliseconds. -/
def millisecondThreshold : Nat := 20000000000

/-- The first and the last second that the calendar with a year 0 reaches. -/
def firstSecond : Int := -62167219200

/-- The last second of the calendar. -/
def lastSecond : Int := 253402300799

/-- The moment so many microseconds after a second, in universal time. -/
def atSecond (second : Int) (micro : Int) : Reading Moment :=
  if second < firstSecond || lastSecond < second then .unreadable
  else match Wall.ofMicros? (second * 1000000 + micro) with
    | some w => .read (.fixed (.utc w))
    | none => .beforeCalendar

/-- The moment a whole count denotes. -/
def ofCount (n : Int) : Reading Moment :=
  if n.natAbs > millisecondThreshold then atSecond (n.fdiv 1000) (n.fmod 1000 * 1000)
  else atSecond n 0

/-- The moment that a fractional count `num / den` denotes: whole seconds are
counted down, and the size of the fraction is rounded to microseconds. -/
def ofQuotient (num : Int) (den : Nat) : Reading Moment :=
  let den := if num.natAbs > millisecondThreshold * den then den * 1000 else den
  let part := num.natAbs % den
  atSecond (num.fdiv den) ((2 * part * 1000000 + den) / (2 * den) : Nat)

/-- The moment that a number denotes. -/
def ofDouble (x : Double) : Reading Moment :=
  if x.infinity = 0 then ofQuotient x.num x.den else .unreadable

/-- The number in a text of digits with perhaps a sign and a fraction, as a
quotient. -/
def quotient? (s : String) : Option (Int × Nat) :=
  let cs := s.toList
  let (sign, cs) : Int × List Char := match cs with
    | '-' :: rest => (-1, rest)
    | '+' :: rest => (1, rest)
    | rest => (1, rest)
  let whole := cs.takeWhile isPlainDigit
  match cs.drop whole.length with
  | [] => if whole.isEmpty then none else some (sign * number whole, 1)
  | '.' :: ds =>
    if whole.isEmpty || ds.isEmpty || !ds.all isPlainDigit then none
    else some (sign * number (whole ++ ds), Nat.pow 10 ds.length)
  | _ => none

/-- The moment a text denotes, as written out or as a count of seconds. -/
def momentOrCount (s : String) : Reading Moment :=
  match moment s with
  | .unreadable =>
    match quotient? s with
    | some (n, 1) => ofCount n
    | some (n, den) => ofQuotient n den
    | none => .unreadable
  | r => r

end SchoolRegistry.Lenient
