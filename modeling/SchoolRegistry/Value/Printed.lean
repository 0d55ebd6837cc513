import SchoolRegistry.Number.Shortest
import SchoolRegistry.Text.Quoted
import SchoolRegistry.Value.Basic

/-!
# The printed form of dynamic values

Messages show values in two ways: `printed` gives the unambiguous form, with
quoted texts and named constructors, and `plain` the form for reading, in which
a text is shown as it is. Members of a list are always unambiguous.
-/

namespace SchoolRegistry.Value

/-! ## Times -/

/-- The printed form of a duration in microseconds: whole days, then seconds
and microseconds of a day, leaving out what is zero. -/
def printedDuration (micros : Int) : String :=
  let days := micros.fdiv dayMicros
  let rest := (micros.fmod dayMicros).toNat
  let part (name : String) (n : Int) : List String :=
    if n = 0 then [] else [name ++ "=" ++ toString n]
  let parts := part "days" days ++ part "seconds" (rest / 1000000 : Nat)
    ++ part "microseconds" (rest % 1000000 : Nat)
  "datetime.timedelta(" ++ (if parts.isEmpty then "0" else ", ".intercalate parts) ++ ")"

/-- The printed form of an offset. -/
def printedOffset (offset : Int) : String :=
  if offset = 0 then "datetime.timezone.utc"
  else "datetime.timezone(" ++ printedDuration offset ++ ")"

/-- The printed form of a day. -/
def printedDate (d : Date) : String :=
  "datetime.date(" ++ ", ".intercalate ([d.year, d.month, d.day].map toString) ++ ")"

/-- The printed form of a moment: seconds and microseconds are left out when
nothing but zeros would follow. -/
def printedMoment (m : Moment) : String :=
  let w := m.wall
  let t := w.time
  let ending := if t.micro ≠ 0 then [t.second, t.micro] else if t.second ≠ 0 then [t.second] else []
  let numbers := [w.date.year, w.date.month, w.date.day, t.hour, t.minute] ++ ending
  let zone := match m with
    | .floating _ => []
    | .fixed s => ["tzinfo=" ++ printedOffset s.offset]
  "datetime.datetime(" ++ ", ".intercalate (numbers.map toString ++ zone) ++ ")"

/-! ## Values -/

/-- The printed form of yes and no. -/
def printedFlag (yes : Bool) : String := if yes then "True" else "False"

/-- The printed form of a term of a vocabulary. -/
def printedChoice (c : Choice) : String :=
  "<" ++ c.fullName ++ ": " ++ Text.quoted c.text ++ ">"

mutual

/-- The unambiguous form of a value. -/
def printed : Value → String
  | null => "None"
  | flag yes => printedFlag yes
  | whole n => toString n
  | real x => x.toText
  | text s => Text.quoted s
  | choice c => printedChoice c
  | day d => printedDate d
  | moment m => printedMoment m
  | list items => "[" ++ ", ".intercalate (printedItems items) ++ "]"
  | tuple items =>
    match printedItems items with
    | [one] => "(" ++ one ++ ",)"
    | many => "(" ++ ", ".intercalate many ++ ")"
  | set items =>
    match printedItems items with
    | [] => "set()"
    | many => "\x7b" ++ ", ".intercalate many ++ "\x7d"
  | table entries => "\x7b" ++ ", ".intercalate (printedEntries entries) ++ "\x7d"
  | record model _ fields => model ++ "(" ++ ", ".intercalate (printedFields fields) ++ ")"
  | object attributes => "namespace(" ++ ", ".intercalate (printedFields attributes) ++ ")"

/-- The unambiguous forms of the members of a list. -/
def printedItems : List Value → List String
  | [] => []
  | x :: xs => x.printed :: printedItems xs

/-- The unambiguous forms of the entries of a table. -/
def printedEntries : List (String × Value) → List String
  | [] => []
  | (k, x) :: xs => (Text.quoted k ++ ": " ++ x.printed) :: printedEntries xs

/-- The unambiguous forms of named values. -/
def printedFields : List (String × Value) → List String
  | [] => []
  | (k, x) :: xs => (k ++ "=" ++ x.printed) :: printedFields xs

end

/-- The form of a value for reading. -/
def plain : Value → String
  | text s => s
  | choice c => c.fullName
  | day d => d.toText
  | moment m => m.toTextWith " "
  | record _ _ fields => " ".intercalate (printedFields fields)
  | v => v.printed

end SchoolRegistry.Value
