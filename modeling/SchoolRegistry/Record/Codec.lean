import SchoolRegistry.Record.Fault
import SchoolRegistry.Text.CharClass
import SchoolRegistry.Text.Case
import SchoolRegistry.Time.Lenient
import SchoolRegistry.Value.Basic

/-!
# Codecs of fields

How a field's value is read from a client's data and shown as a value again.
Reading is lenient: yes and no have a dozen spellings, a whole number may be a
text, a day may be a moment that starts it. Showing is canonical, and the law
`Codec.read_write` says that what is shown is read as itself.

What a codec does not accept it refuses with the faults of the value, each at
its place.
-/

namespace SchoolRegistry

/-- A way to read values as `α` and to show them. -/
structure Codec (α : Type) where
  read : Value → Except (List Fault) α
  write : α → Value
  /-- What is shown is read as itself. -/
  read_write : ∀ a, read (write a) = .ok a

namespace Codec

/-- The refusal of a value by one fault of its own. -/
def refuse {α : Type} (code : FaultCode) : Except (List Fault) α := .error [.here code]

/-! ## Texts, yes and no, whole numbers -/

/-- Texts; a term of a vocabulary counts as its text. -/
def text : Codec String where
  read v := match v.text? with
    | some s => .ok s
    | none => refuse .stringType
  write := .text
  read_write _ := rfl

/-- The spellings of yes. -/
def yesWords : List String := ["1", "on", "t", "true", "y", "yes"]

/-- The spellings of no. -/
def noWords : List String := ["0", "off", "f", "false", "n", "no"]

/-- Yes or no from a spelling, in upper or lower case. -/
def readWord (s : String) : Except (List Fault) Bool :=
  let word := Text.lowerPlain s
  if yesWords.contains word then .ok true
  else if noWords.contains word then .ok false
  else refuse .boolParsing

/-- Yes and no: also as numbers and as words. -/
def flag : Codec Bool where
  read
    | .flag yes => .ok yes
    | .whole n => if n = 1 then .ok true else if n = 0 then .ok false else refuse .boolParsing
    | .real x =>
      match x.whole? with
      | some 1 => .ok true
      | some 0 => .ok false
      | _ => refuse .boolType
    | v => match v.text? with
      | some s => readWord s
      | none => refuse .boolType
  write := .flag
  read_write _ := rfl

/-- A blank in the sense of whole numbers: the information separators are none. -/
def isNumberBlank (c : Char) : Bool := Text.isBlank c && !(0x1c ≤ c.toNat && c.toNat ≤ 0x1f)

/-- A number without the zeros in front of it; single underscores may stand
between them. A number of zeros only keeps its last character. -/
def withoutLeadingZeros : List Char → Option (List Char)
  | '0' :: rest => go ['0'] rest
  | c :: rest => if ('1' ≤ c && c ≤ '9') || c == '-' then some (c :: rest) else none
  | [] => none
where
  /-- The number after a zero or an underscore, which is kept at hand. -/
  go (last : List Char) : List Char → Option (List Char)
    | [] => some last
    | '.' :: rest => some (last ++ '.' :: rest)
    | c :: rest =>
      if c == '0' || c == '_' then go [c] rest
      else if '1' ≤ c && c ≤ '9' then some (c :: rest)
      else none

/-- A number without a fraction of zeros. -/
def withoutZeroFraction (cs : List Char) : List Char :=
  match cs.dropWhile (· != '.') with
  | '.' :: fraction => if fraction.all (· == '0') then cs.takeWhile (· != '.') else cs
  | _ => cs

/-- Whether two underscores stand side by side. -/
def hasDoubleUnderscore : List Char → Bool
  | '_' :: '_' :: _ => true
  | _ :: rest => hasDoubleUnderscore rest
  | [] => false

/-- A number without single underscores inside it. -/
def withoutUnderscores (cs : List Char) : List Char :=
  if cs.head? == some '_' || cs.getLast? == some '_' || hasDoubleUnderscore cs then cs
  else cs.filter (· != '_')

/-- The whole number in plain digits with perhaps a minus sign. -/
def signedDigits? : List Char → Option Int
  | '-' :: ds => if ds.isEmpty || !ds.all Text.isPlainDigit then none else some (-(Text.number ds))
  | ds => if ds.isEmpty || !ds.all Text.isPlainDigit then none else some (Text.number ds)

/-- The whole number a text denotes. -/
def wholeOfText? (s : String) : Option Int := do
  let front := s.toList.dropWhile isNumberBlank
  let cs := (front.reverse.dropWhile isNumberBlank).reverse
  let cs ← match cs with
    | '+' :: '-' :: _ => none
    | '+' :: rest => some rest
    | rest => some rest
  let cs ← withoutLeadingZeros cs
  signedDigits? (withoutUnderscores (withoutZeroFraction cs))

/-- Whole numbers: also as yes and no, as numbers without a fraction and as
texts. -/
def whole : Codec Int where
  read
    | .whole n => .ok n
    | .flag yes => .ok (if yes then 1 else 0)
    | .real x =>
      if x.infinity ≠ 0 then refuse .finiteNumber
      else match x.whole? with
        | some n => .ok n
        | none => refuse .intFromFloat
    | v => match v.text? with
      | some s => match wholeOfText? s with
        | some n => .ok n
        | none => refuse .intParsing
      | none => refuse .intType
  write := .whole
  read_write _ := rfl

/-! ## Terms of a vocabulary -/

/-- Terms of a vocabulary: also by their exact texts. -/
def term (α : Type) [Selectable α] : Codec α where
  read v :=
    match v with
    | .choice c =>
      match Selectable.chosen? c <|> Vocabulary.ofText? c.text with
      | some a => .ok a
      | none => refuse .enumTerm
    | .text s =>
      match Vocabulary.ofText? s with
      | some a => .ok a
      | none => refuse .enumTerm
    | _ => refuse .enumTerm
  write a := .choice (Selectable.choose a)
  read_write a := by simp [Selectable.chosen?_choose]

/-! ## Times -/

/-- The reading of a moment as a day: it must be the start of the day. -/
def dayOf (m : Moment) : Except (List Fault) Date :=
  if m.wall.time = .midnight then .ok m.wall.date else refuse .dateFromDatetimeInexact

/-- The day that a reading of a moment gives. -/
def dayOfReading : Lenient.Reading Moment → Except (List Fault) Date
  | .read m => dayOf m
  | .beforeCalendar => refuse .dateParsing
  | .unreadable => refuse .dateFromDatetimeParsing

/-- Days: also as texts, as moments that start a day and as counts of seconds. -/
def day : Codec Date where
  read
    | .day d => .ok d
    | .moment m => dayOf m
    | .whole n => dayOfReading (Lenient.ofCount n)
    | .real x => dayOfReading (Lenient.ofDouble x)
    | v => match v.text? with
      | some s =>
        match Lenient.date s with
        | .read d => .ok d
        | .beforeCalendar => refuse .dateParsing
        | .unreadable => dayOfReading (Lenient.momentOrCount s)
      | none => refuse .dateType
  write := .day
  read_write _ := rfl

/-- The moment that a reading gives, with the fault of a form not known. -/
def momentOfReading (unreadable : FaultCode) : Lenient.Reading Moment → Except (List Fault) Moment
  | .read m => .ok m
  | .beforeCalendar => refuse .datetimeParsing
  | .unreadable => refuse unreadable

/-- Moments: also as texts, as days and as counts of seconds. -/
def moment : Codec Moment where
  read
    | .moment m => .ok m
    | .day d => .ok (.floating ⟨d, .midnight⟩)
    | .whole n => momentOfReading .datetimeParsing (Lenient.ofCount n)
    | .real x => momentOfReading .datetimeParsing (Lenient.ofDouble x)
    | v => match v.text? with
      | some s => momentOfReading .datetimeFromDateParsing (Lenient.momentOrCount s)
      | none => refuse .datetimeType
  write := .moment
  read_write _ := rfl

/-- Instants: moments, read as universal time where they have no offset. -/
def stamp : Codec Stamp where
  read v := (moment.read v).map Moment.assumeUtc
  write s := .moment (.fixed s)
  read_write _ := rfl

/-! ## Composition -/

/-- Values that may be missing, for a codec that never shows nothing. -/
def optional {α : Type} (c : Codec α) (present : ∀ a, (c.write a).isNull = false) :
    Codec (Option α) where
  read v := if v.isNull then .ok none else (c.read v).map some
  write
    | some a => c.write a
    | none => .null
  read_write
    | some a => by simp [present, c.read_write, Except.map]
    | none => rfl

/-- Texts that may be missing. -/
def text? : Codec (Option String) := optional text fun _ => rfl

/-- Whole numbers that may be missing. -/
def whole? : Codec (Option Int) := optional whole fun _ => rfl

/-- Terms that may be missing. -/
def term? (α : Type) [Selectable α] : Codec (Option α) := optional (term α) fun _ => rfl

/-- Days that may be missing. -/
def day? : Codec (Option Date) := optional day fun _ => rfl

/-- Instants that may be missing. -/
def stamp? : Codec (Option Stamp) := optional stamp fun _ => rfl

/-- The members of a list read one by one; every faulty one is reported with
its number. -/
def readItems {α : Type} (c : Codec α) : Nat → List Value → Except (List Fault) (List α)
  | _, [] => .ok []
  | i, v :: vs =>
    match c.read v, readItems c (i + 1) vs with
    | .ok a, .ok as => .ok (a :: as)
    | .ok _, .error e => .error e
    | .error e, .ok _ => .error (e.map (·.under (toString i)))
    | .error e, .error e' => .error (e.map (·.under (toString i)) ++ e')

/-- Items are read as themselves, one by one. -/
theorem readItems_write {α : Type} (c : Codec α) (as : List α) (i : Nat) :
    readItems c i (as.map c.write) = .ok as := by
  induction as generalizing i with
  | nil => rfl
  | cons a as ih => simp [readItems, c.read_write, ih]

/-- Lists of values; tuples and sets are read as lists. -/
def list {α : Type} (c : Codec α) : Codec (List α) where
  read
    | .list vs => readItems c 0 vs
    | .tuple vs => readItems c 0 vs
    | .set vs => readItems c 0 vs
    | _ => refuse .listType
  write as := .list (as.map c.write)
  read_write as := readItems_write c as 0

/-- The entries of a table read one by one; every faulty one is reported under
its key. -/
def readEntries {α : Type} (c : Codec α) : Fields → Except (List Fault) (List (String × α))
  | [] => .ok []
  | (k, v) :: rest =>
    match c.read v, readEntries c rest with
    | .ok a, .ok as => .ok ((k, a) :: as)
    | .ok _, .error e => .error e
    | .error e, .ok _ => .error (e.map (·.under k))
    | .error e, .error e' => .error (e.map (·.under k) ++ e')

/-- Entries are read as themselves, one by one. -/
theorem readEntries_write {α : Type} (c : Codec α) (as : List (String × α)) :
    readEntries c (as.map fun p => (p.1, c.write p.2)) = .ok as := by
  induction as with
  | nil => rfl
  | cons a as ih => simp [readEntries, c.read_write, ih]

/-- Tables with text keys. -/
def table {α : Type} (c : Codec α) : Codec (List (String × α)) where
  read
    | .table entries => readEntries c entries
    | _ => refuse .dictType
  write as := .table (as.map fun p => (p.1, c.write p.2))
  read_write as := readEntries_write c as

end Codec

end SchoolRegistry
