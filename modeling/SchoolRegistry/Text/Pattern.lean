import SchoolRegistry.Text.CharClass
import SchoolRegistry.Text.Digit
import SchoolRegistry.Text.Word

/-!
# Text patterns

Regular expressions as data, and whether a whole text matches one. Matching
works on places: a place is the rest of the text together with the character
before it, and a pattern leads from a place to the list of places at which a
match of it may end. Since only whole texts are matched, it is enough to know
which ends can be reached; the order in which a search would find them, and so
the difference between greedy and lazy repetition, cannot be seen.

How patterns are written is defined in `SchoolRegistry.Text.Pattern.Reader`.
-/

namespace SchoolRegistry.Text

/-! ## Patterns -/

/-- One entry of a bracketed class. -/
inductive ClassItem where
  /-- The characters between two ends, both included. -/
  | between (first last : Char)
  /-- Decimal digits, or all characters that are none. -/
  | digit (member : Bool)
  /-- Word characters, or all characters that are none. -/
  | word (member : Bool)
  /-- Blank characters, or all characters that are none. -/
  | blank (member : Bool)

/-- Whether an entry covers a character. -/
def ClassItem.covers : ClassItem → Char → Bool
  | between first last, c => first ≤ c && c ≤ last
  | digit member, c => isDigit c == member
  | word member, c => isWordChar c == member
  | blank member, c => isBlank c == member

/-- A regular expression. -/
inductive Pattern where
  /-- The empty text. -/
  | nothing
  /-- One character that some entry covers, or that none covers. -/
  | one (member : Bool) (items : List ClassItem)
  /-- The place before the first character. -/
  | start
  /-- The place after the last character. -/
  | finish
  /-- The place after the last character or before a line feed that is last. -/
  | lastLine
  /-- A place with a word character on exactly one side, or any other place. -/
  | wordEdge (member : Bool)
  /-- One pattern, then another. -/
  | chain (first second : Pattern)
  /-- Either of two patterns. -/
  | choice (left right : Pattern)
  /-- A pattern at least and at most so many times. -/
  | times (least : Nat) (most : Option Nat) (body : Pattern)

/-! ## Matching -/

/-- A place in a text: the character before it, if any, and the text after. -/
structure Place where
  before : Option Char
  rest : List Char

/-- Whether two places of the same text are the same one. -/
def Place.same (p q : Place) : Bool := p.rest.length == q.rest.length

/-- The places of a list, each kept once. -/
def distinctPlaces (ps : List Place) : List Place :=
  ps.foldr (fun p kept => if kept.any p.same then kept else p :: kept) []

/-- The places reached by exactly so many steps. -/
def exactly (step : Place → List Place) : Nat → List Place → List Place
  | 0, ps => ps
  | n + 1, ps => if ps.isEmpty then [] else exactly step n (distinctPlaces (ps.flatMap step))

/-- The places reached by at most so many steps: those found so far, and those
further on from the ones found last. -/
def upTo (step : Place → List Place) : Nat → List Place → List Place → List Place
  | 0, found, _ => found
  | n + 1, found, last =>
    let fresh := (distinctPlaces (last.flatMap step)).filter fun p => !found.any p.same
    if fresh.isEmpty then found else upTo step n (found ++ fresh) fresh

/-- Whether a place has a word character on exactly one side. -/
def Place.atWordEdge (p : Place) : Bool :=
  p.before.any isWordChar != p.rest.head?.any isWordChar

/-- The places at which a match that starts at the given place may end. -/
def Pattern.ends : Pattern → Place → List Place
  | nothing, p => [p]
  | one member items, p =>
    match p.rest with
    | [] => []
    | c :: rest => if items.any (·.covers c) == member then [⟨some c, rest⟩] else []
  | start, p => if p.before.isNone then [p] else []
  | finish, p => if p.rest.isEmpty then [p] else []
  | lastLine, p => if p.rest.isEmpty || p.rest == ['\n'] then [p] else []
  | wordEdge member, p => if p.atWordEdge == member then [p] else []
  | chain first second, p => distinctPlaces ((first.ends p).flatMap fun q => second.ends q)
  | choice left right, p => distinctPlaces (left.ends p ++ right.ends p)
  | times least most body, p =>
    let step := fun q => body.ends q
    let required := exactly step least [p]
    let more := match most with
      | some most => min (most - least) (p.rest.length + 1)
      | none => p.rest.length + 1
    upTo step more required required

/-- Whether the pattern matches the whole text. -/
def Pattern.matchesAll (r : Pattern) (s : String) : Bool :=
  (r.ends ⟨none, s.toList⟩).any fun p => p.rest.isEmpty

end SchoolRegistry.Text
