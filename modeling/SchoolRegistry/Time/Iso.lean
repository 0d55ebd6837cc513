import SchoolRegistry.Time.Moment

/-!
# The ISO 8601 texts of days and moments

Reading days and moments in the basic and the extended format of ISO 8601,
with calendar days or week days. A moment is a day, one separating character,
a time and possibly an offset.

The reader is generous in a few places, and its rules are these: a plain day of
ten bytes without hyphens, or a week day of ten bytes, need not use its last
two bytes; a fraction may follow any part of the time; and what follows the
seconds of a time is of no account once an offset comes after it.
-/

namespace SchoolRegistry.Iso

open Text

/-- The number in exactly `count` digits at the front, and the rest. -/
def digitsOf? (count : Nat) (cs : List Char) : Option (Nat × List Char) :=
  let front := cs.take count
  if front.length = count && front.all isPlainDigit then some (number front, cs.drop count)
  else none

/-! ## Days -/

/-- The week day at the front; `more` tells whether a weekday follows. -/
def weekDate? (year : Nat) (hyphens more : Bool) (cs : List Char) : Option Date := do
  let (week, rest) ← digitsOf? 2 cs
  if more then
    let rest ← match hyphens, rest with
      | true, '-' :: rest => some rest
      | true, _ => none
      | false, rest => some rest
    let (weekday, _) ← digitsOf? 1 rest
    Date.ofWeek? year week weekday
  else Date.ofWeek? year week 1

/-- The month and the day at the front. -/
def monthDay? (hyphens : Bool) (cs : List Char) : Option (Nat × Nat) := do
  let (month, rest) ← digitsOf? 2 cs
  let rest ← match hyphens, rest with
    | true, '-' :: rest => some rest
    | true, _ => none
    | false, rest => some rest
  let (day, _) ← digitsOf? 2 rest
  some (month, day)

/-- The day written in the first `size` characters. -/
def dateOfSize? (size : Nat) (cs : List Char) : Option Date := do
  let (year, rest) ← digitsOf? 4 cs
  let (hyphens, rest) := match rest with
    | '-' :: rest => (true, rest)
    | rest => (false, rest)
  match rest with
  | 'W' :: rest => weekDate? year hyphens ((if hyphens then 8 else 7) < size) rest
  | rest =>
    let (month, day) ← monthDay? hyphens rest
    Date.of? year month day

/-- The day a text of seven, eight or ten bytes denotes. -/
def date? (s : String) : Option Date :=
  let size := s.utf8ByteSize
  if size == 7 || size == 8 || size == 10 then dateOfSize? size s.toList else none

/-! ## Times -/

/-- A time of day as written, and whether nothing was left over. -/
structure Reading where
  hour : Nat
  minute : Nat
  second : Nat
  micro : Nat
  complete : Bool

/-- The microseconds in the digits of a fraction: six of them count. -/
def fraction? (cs : List Char) : Option (Nat × Bool) := do
  let count := min 6 cs.length
  let (n, rest) ← digitsOf? count cs
  some (n * Nat.pow 10 (6 - count), (rest.dropWhile isPlainDigit).isEmpty)

/-- What follows one part of a time. -/
inductive AfterPart where
  /-- Nothing follows. -/
  | ended
  /-- One plain character follows that starts nothing. -/
  | dangling
  /-- The next part follows. -/
  | part (rest : List Char)
  /-- A fraction follows. -/
  | fraction (rest : List Char)
  /-- A character follows that does not belong here. -/
  | wrong

/-- What follows a part, in a time with or without colons. -/
def afterPart (colons : Bool) : List Char → AfterPart
  | [] => .ended
  | [c] => if c.toNat < 0x80 then .dangling else .wrong
  | c :: rest =>
    if colons && c == ':' then .part rest
    else if c == '.' || c == ',' then .fraction rest
    else if colons then .wrong
    else .part (c :: rest)

/-- A time with its fraction. -/
def withFraction? (hour minute second : Nat) (cs : List Char) : Option Reading :=
  (fraction? cs).map fun f => ⟨hour, minute, second, f.1, f.2⟩

/-- The time in the given characters: hours, minutes and seconds, each with two
digits, with a colon between all of them or none. -/
def reading? (cs : List Char) : Option Reading := do
  let (hour, rest) ← digitsOf? 2 cs
  let colons := rest.head? == some ':'
  match afterPart colons rest with
  | .ended => some ⟨hour, 0, 0, 0, true⟩
  | .dangling => some ⟨hour, 0, 0, 0, false⟩
  | .wrong => none
  | .fraction rest => withFraction? hour 0 0 rest
  | .part rest =>
    let (minute, rest) ← digitsOf? 2 rest
    match afterPart colons rest with
    | .ended => some ⟨hour, minute, 0, 0, true⟩
    | .dangling => some ⟨hour, minute, 0, 0, false⟩
    | .wrong => none
    | .fraction rest => withFraction? hour minute 0 rest
    | .part rest =>
      let (second, rest) ← digitsOf? 2 rest
      match afterPart colons rest with
      | .ended => some ⟨hour, minute, second, 0, true⟩
      | .dangling => some ⟨hour, minute, second, 0, false⟩
      | .wrong => none
      | .fraction rest => withFraction? hour minute second rest
      | .part rest => withFraction? hour minute second rest

/-- A sign or letter that opens an offset. -/
def opensOffset (c : Char) : Bool := c == '+' || c == '-' || c == 'Z'

/-- The offset in the given characters, in microseconds and below a day; one
of less than a second counts as none. -/
def offset? : List Char → Option Int
  | ['Z'] => some 0
  | '+' :: cs => sized 1 cs
  | '-' :: cs => sized (-1) cs
  | _ => none
where
  /-- The size of an offset with the given sign. -/
  sized (sign : Int) (cs : List Char) : Option Int := do
    let r ← reading? cs
    let seconds : Int := (r.hour * 60 + r.minute) * 60 + r.second
    let micros : Int := if seconds = 0 then 0 else seconds * 1000000 + r.micro
    if r.complete && micros < dayMicros then some (sign * micros) else none

/-- The moment with a time and possibly an offset on the given day. -/
def timeOn? (date : Date) (cs : List Char) : Option Moment := do
  let clock := cs.takeWhile fun c => !opensOffset c
  let zone := cs.dropWhile fun c => !opensOffset c
  let r ← reading? clock
  let time ← TimeOfDay.of? r.hour r.minute r.second r.micro
  if zone.isEmpty then
    if r.complete then some (.floating ⟨date, time⟩) else none
  else (offset? zone).map fun offset => .fixed ⟨⟨date, time⟩, offset⟩

/-! ## Moments -/

/-- How many characters of a text belong to its day. Where a week day could be
followed by either a weekday or a separator, the number of digits decides. -/
def dateSize? (cs : List Char) : Option Nat :=
  let size := cs.length
  let digitAt (i : Nat) : Bool := (cs[i]?).any isPlainDigit
  if size < 7 then none
  else if size = 7 then some 7
  else if cs[4]? == some '-' then
    if cs[5]? == some 'W' then
      if cs[8]? == some '-' then
        if size = 9 then none
        else if digitAt 10 then some 8 else some 10
      else some 8
    else some 10
  else if cs[4]? == some 'W' then
    let stop := 7 + ((cs.drop 7).takeWhile isPlainDigit).length
    if stop < 9 then some stop else if stop % 2 = 0 then some 7 else some 8
  else some 8

/-- The moment a text denotes; a day alone is its start. -/
def moment? (s : String) : Option Moment := do
  let cs := s.toList
  let size ← dateSize? cs
  let date ← dateOfSize? size cs
  if cs.length ≤ size then some (.floating ⟨date, .midnight⟩)
  else timeOn? date (cs.drop (size + 1))

end SchoolRegistry.Iso
