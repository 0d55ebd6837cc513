import SchoolRegistry.Text.Digit
import SchoolRegistry.Value.Basic

/-!
# Reading documents

The strict reader of documents: blanks only between the parts, numbers without
leading zeros, texts without control characters, and nothing after the value.
A number with a fraction or an exponent is a number of the binary format, any
other one is whole. Of two entries under one key the later counts.

Every reading step takes the characters that are left and gives back fewer; the
fuel of the recursive steps is computed from the length of the text.
-/

namespace SchoolRegistry.Value.Document

/-! ## Leaves -/

/-- The characters after any blanks. -/
def skipBlanks (cs : List Char) : List Char :=
  cs.dropWhile fun c => c == ' ' || c == '\t' || c == '\n' || c == '\r'

/-- The value of a hexadecimal digit. -/
def hexDigit? (c : Char) : Option Nat :=
  if '0' ≤ c && c ≤ '9' then some (c.toNat - '0'.toNat)
  else if 'a' ≤ c && c ≤ 'f' then some (c.toNat - 'a'.toNat + 10)
  else if 'A' ≤ c && c ≤ 'F' then some (c.toNat - 'A'.toNat + 10)
  else none

/-- The unit of sixteen bits that four digits denote. -/
def unit? : List Char → Option (Nat × List Char)
  | a :: b :: c :: d :: rest => do
    let a ← hexDigit? a
    let b ← hexDigit? b
    let c ← hexDigit? c
    let d ← hexDigit? d
    some (((a * 16 + b) * 16 + c) * 16 + d, rest)
  | _ => none

/-- The character of a code; a half of a pair is none. -/
def charOf? (n : Nat) : Option Char :=
  if 0xd800 ≤ n && n < 0xe000 then none else some (Char.ofNat n)

/-- The character that an escape stands for, and the characters after it. -/
def escape? : List Char → Option (Char × List Char)
  | '\x22' :: rest => some ('\x22', rest)
  | '\\' :: rest => some ('\\', rest)
  | '/' :: rest => some ('/', rest)
  | 'b' :: rest => some ('\x08', rest)
  | 'f' :: rest => some ('\x0c', rest)
  | 'n' :: rest => some ('\n', rest)
  | 'r' :: rest => some ('\r', rest)
  | 't' :: rest => some ('\t', rest)
  | 'u' :: rest => do
    let (high, rest) ← unit? rest
    if 0xd800 ≤ high && high < 0xdc00 then
      match rest with
      | '\\' :: 'u' :: more => do
        let (low, more) ← unit? more
        if 0xdc00 ≤ low && low < 0xe000 then
          some (Char.ofNat (0x10000 + (high - 0xd800) * 0x400 + (low - 0xdc00)), more)
        else none
      | _ => none
    else (charOf? high).map fun c => (c, rest)
  | _ => none

/-- The text up to the closing quotation mark, and the characters after it. -/
def readText : Nat → List Char → Option (List Char × List Char)
  | 0, _ => none
  | _ + 1, '\x22' :: rest => some ([], rest)
  | fuel + 1, '\\' :: rest => do
    let (c, rest) ← escape? rest
    let (cs, rest) ← readText fuel rest
    some (c :: cs, rest)
  | fuel + 1, c :: rest =>
    if c.toNat < 0x20 then none
    else (readText fuel rest).map fun r => (c :: r.1, r.2)
  | _ + 1, [] => none

/-- The digits at the front, and the characters after them. -/
def digits (cs : List Char) : List Char × List Char :=
  (cs.takeWhile Text.isPlainDigit, cs.dropWhile Text.isPlainDigit)

/-- The digits of a whole number without leading zeros. -/
def wholeDigits? : List Char → Option (List Char × List Char)
  | '0' :: rest => some (['0'], rest)
  | cs =>
    match digits cs with
    | ([], _) => none
    | found => some found

/-- The fraction at the front, if there is one. -/
def fraction (cs : List Char) : List Char × List Char :=
  match cs with
  | '.' :: rest =>
    match digits rest with
    | ([], _) => ([], cs)
    | found => found
  | _ => ([], cs)

/-- The exponent after its letter, if there is one. -/
def signedExponent? (cs : List Char) : Option (Int × List Char) :=
  let (negative, ds) := match cs with
    | '-' :: rest => (true, rest)
    | '+' :: rest => (false, rest)
    | _ => (false, cs)
  match digits ds with
  | ([], _) => none
  | (found, rest) =>
    let n : Int := Text.number found
    some (if negative then -n else n, rest)

/-- The exponent at the front, if there is one. -/
def exponent? : List Char → Option (Int × List Char)
  | 'e' :: rest => signedExponent? rest
  | 'E' :: rest => signedExponent? rest
  | _ => none

/-- The number without its sign at the front, and the characters after it. -/
def unsigned? (negative : Bool) (cs : List Char) : Option (Value × List Char) := do
  let (front, rest) ← wholeDigits? cs
  let (places, rest) := fraction rest
  match exponent? rest with
  | some (power, rest) =>
    some (.real (.ofDecimal negative (Text.number (front ++ places)) (power - places.length)), rest)
  | none =>
    if places.isEmpty then
      let n : Int := Text.number front
      some (.whole (if negative then -n else n), rest)
    else
      some (.real (.ofDecimal negative (Text.number (front ++ places)) (-(places.length : Int))),
        rest)

/-- The number at the front, and the characters after it. -/
def number? : List Char → Option (Value × List Char)
  | '-' :: rest => unsigned? true rest
  | cs => unsigned? false cs

/-- The characters after a word. -/
def afterWord? (word cs : List Char) : Option (List Char) :=
  if word.isPrefixOf cs then some (cs.drop word.length) else none

/-- The words that denote values. -/
def words : List (String × Value) := [
  ("null", .null), ("true", .flag true), ("false", .flag false),
  ("Infinity", .real (.infinite false)), ("-Infinity", .real (.infinite true)),
  ("NaN", .real (.infinite false))]

/-- The value that a word at the front denotes, or else the number there. -/
def leaf? (cs : List Char) : Option (Value × List Char) :=
  (words.findSome? fun w => (afterWord? w.1.toList cs).map fun rest => (w.2, rest)).or
    (number? cs)

/-! ## Values -/

mutual

/-- The value at the front, and the characters after it. -/
def readValue : Nat → List Char → Option (Value × List Char)
  | 0, _ => none
  | fuel + 1, cs =>
    match skipBlanks cs with
    | '\x22' :: rest => do
      let (s, rest) ← readText (rest.length + 1) rest
      some (.text (String.ofList s), rest)
    | '[' :: rest =>
      match skipBlanks rest with
      | ']' :: rest => some (.list [], rest)
      | rest => (readItems fuel rest).map fun r => (.list r.1, r.2)
    | '\x7b' :: rest =>
      match skipBlanks rest with
      | '\x7d' :: rest => some (.table [], rest)
      | rest => (readEntries fuel rest).map fun r => (.table (Fields.ofPairs r.1), r.2)
    | rest => leaf? rest

/-- The members of a list up to its end. -/
def readItems : Nat → List Char → Option (List Value × List Char)
  | 0, _ => none
  | fuel + 1, cs => do
    let (v, rest) ← readValue fuel cs
    match skipBlanks rest with
    | ']' :: rest => some ([v], rest)
    | ',' :: rest => (readItems fuel rest).map fun r => (v :: r.1, r.2)
    | _ => none

/-- The entries of a table up to its end. -/
def readEntries : Nat → List Char → Option (List (String × Value) × List Char)
  | 0, _ => none
  | fuel + 1, cs =>
    match skipBlanks cs with
    | '\x22' :: rest => do
      let (k, rest) ← readText (rest.length + 1) rest
      match skipBlanks rest with
      | ':' :: rest => do
        let (v, rest) ← readValue fuel rest
        match skipBlanks rest with
        | '\x7d' :: rest => some ([(String.ofList k, v)], rest)
        | ',' :: rest =>
          (readEntries fuel rest).map fun r => ((String.ofList k, v) :: r.1, r.2)
        | _ => none
      | _ => none
    | _ => none

end

/-- The value that a text denotes as a document. -/
def read? (s : String) : Option Value :=
  let cs := s.toList
  match readValue (2 * cs.length + 2) cs with
  | some (v, rest) => if (skipBlanks rest).isEmpty then some v else none
  | none => none

end SchoolRegistry.Value.Document
