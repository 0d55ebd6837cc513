import SchoolRegistry.Relational.Table
import SchoolRegistry.Value.Document

/-!
# What a database compares

A database knows only numbers and texts: days and moments are texts that sort
by time, yes and no are one and zero, and a document is its text. A number that
meets a column of texts is compared as its text, and a text that meets any other
column is compared as the number that it spells, if it spells one.
-/

namespace SchoolRegistry

/-- A number or a text, as the database compares it. -/
inductive Content where
  | whole (n : Int)
  | real (x : Double)
  | text (s : String)

/-- Why a value cannot be given to a database. -/
inductive BindingFault where
  /-- There are no such values in a database. -/
  | unsupported
  /-- The number needs more than sixty-four bits. -/
  | tooLarge

namespace Content

/-- The order of contents: numbers by size and before all texts, texts by their
characters. -/
def compare : Content → Content → Ordering
  | whole a, whole b => Ord.compare a b
  | whole a, real b => Double.compareInt a b
  | real a, whole b => (Double.compareInt b a).swap
  | real a, real b => a.compare b
  | text a, text b => Ord.compare a b
  | text _, _ => .gt
  | _, text _ => .lt

/-! ## Contents of values -/

/-- Whether a number fits into sixty-four bits. -/
def fits (n : Int) : Bool := -9223372036854775808 ≤ n && n < 9223372036854775808

/-- The content of a value that is no document. -/
def ofScalar : Value → Except BindingFault (Option Content)
  | .null => .ok none
  | .flag yes => .ok (some (whole (if yes then 1 else 0)))
  | .whole n => if fits n then .ok (some (whole n)) else .error .tooLarge
  | .real x => .ok (some (real x))
  | .text s => .ok (some (text s))
  | .choice t => .ok (some (text t.text))
  | .day d => .ok (some (text d.toText))
  | .moment m => .ok (some (text m.wall.columnText))
  | _ => .error .unsupported

/-- The content of a value in a column; a missing value has none. A column of
documents takes every value that can be written as a document. -/
def ofValue (t : ColumnType) (v : Value) : Except BindingFault (Option Content) :=
  match t with
  | .json =>
    match v.documentText? with
    | some s => .ok (some (text s))
    | none => .error .unsupported
  | _ => ofScalar v

/-! ## Numbers as texts and texts as numbers -/

/-- A number with at most fifteen digits, always with a point. -/
def realText (x : Double) : String :=
  match x with
  | .infinite negative => if negative then "-Inf" else "Inf"
  | .finite negative m e =>
    if m = 0 then "0.0"
    else
      let size : Double := .finite false m e
      let num := size.num.toNat
      let lead := Double.leadingPower num size.den
      let (ds, place) :=
        ((Double.neighbours num size.den (lead - 14)).headD ⟨0, 0⟩).placed
      let body :=
        if -3 ≤ place && place ≤ 16 then Double.positional ds place
        else Double.scientific 2 (if ds.length = 1 then ds ++ ['0'] else ds) place
      String.ofList (if negative then '-' :: body else body)

/-- The digits at the front of a text, and what follows them. -/
def splitDigits (cs : List Char) : List Char × List Char :=
  (cs.takeWhile Text.isPlainDigit, cs.dropWhile Text.isPlainDigit)

/-- The digits after a point, if there is one, and what follows them. -/
def splitFraction : List Char → Option (List Char) × List Char
  | '.' :: cs =>
    let (ds, rest) := splitDigits cs
    (some ds, rest)
  | cs => (none, cs)

/-- Digits with a sign or without one. -/
def signedDigits? : List Char → Option Int
  | '-' :: ds => (digitsOnly? ds).map fun n => -(n : Int)
  | '+' :: ds => (digitsOnly? ds).map fun n => n
  | ds => (digitsOnly? ds).map fun n => n
where
  /-- Digits and nothing else. -/
  digitsOnly? (ds : List Char) : Option Nat :=
    if ds.isEmpty || !ds.all Text.isPlainDigit then none else some (Text.number ds)

/-- The exponent that ends a number, if there is one; nothing else may follow. -/
def exponent? : List Char → Option (Option Int)
  | [] => some none
  | 'e' :: cs => (signedDigits? cs).map some
  | 'E' :: cs => (signedDigits? cs).map some
  | _ => none

/-- The number that digits with a point or an exponent spell. -/
def ofDigits (negative : Bool) (cs : List Char) : Option Content := do
  let (front, rest) := splitDigits cs
  let (point, rest) := splitFraction rest
  let exponent ← exponent? rest
  let back := point.getD []
  let size := Text.number (front ++ back)
  let n : Int := if negative then -(size : Int) else size
  if front.isEmpty && back.isEmpty then none
  else if point.isNone && exponent.isNone && fits n then some (whole n)
  else some (real (Double.ofDecimal negative size (exponent.getD 0 - back.length)))

/-- Characters that may surround a number in a text. -/
def isSpace (c : Char) : Bool := c == ' ' || (9 ≤ c.toNat && c.toNat ≤ 13)

/-- The number that a text spells, with blanks around it. -/
def ofNumeral? (s : String) : Option Content :=
  let cs := ((s.toList.dropWhile isSpace).reverse.dropWhile isSpace).reverse
  match cs with
  | '-' :: ds => ofDigits true ds
  | '+' :: ds => ofDigits false ds
  | ds => ofDigits false ds

/-- A content as it is compared with a column of the given type. -/
def metBy (t : ColumnType) (c : Content) : Content :=
  match t with
  | .varchar _ =>
    match c with
    | whole n => text (toString n)
    | real x => text (realText x)
    | text s => text s
  | _ =>
    match c with
    | text s => (ofNumeral? s).getD (text s)
    | number => number

/-! ## Missing contents -/

/-- Whether a column and a parameter are equal; missing ones never are. -/
def equal (t : ColumnType) (held given : Option Content) : Bool :=
  match held, given with
  | some a, some b => a.compare (b.metBy t) == .eq
  | _, _ => false

/-- The order of contents with missing ones after all others. -/
def compareNullsLast : Option Content → Option Content → Ordering
  | none, none => .eq
  | none, some _ => .gt
  | some _, none => .lt
  | some a, some b => a.compare b

end Content

end SchoolRegistry
