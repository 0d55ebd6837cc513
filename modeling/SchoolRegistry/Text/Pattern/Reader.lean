import SchoolRegistry.Text.Pattern

/-!
# The notation of patterns

Reading a regular expression: literal characters, escapes, the dot, bracketed
classes, groups, alternatives, repetitions with a count or a sign, and the
anchors. A trailing question mark or plus sign after a repetition chooses how a
search proceeds and does not change which whole texts match.

A notation is refused when a bracket or a group is left open, when a repetition
has nothing to repeat or follows another repetition, when the ends of a range
are in the wrong order, and when a letter is escaped that has no meaning.
-/

namespace SchoolRegistry.Text.Pattern

/-! ## Escapes -/

/-- The value of a hexadecimal digit. -/
def hexValue? (c : Char) : Option Nat :=
  if '0' ≤ c && c ≤ '9' then some (c.toNat - '0'.toNat)
  else if 'a' ≤ c && c ≤ 'f' then some (c.toNat - 'a'.toNat + 10)
  else if 'A' ≤ c && c ≤ 'F' then some (c.toNat - 'A'.toNat + 10)
  else none

/-- The character with the code given by exactly `count` hexadecimal digits. -/
def coded? (count : Nat) (cs : List Char) : Option (Char × List Char) := do
  let ds ← (cs.take count).mapM hexValue?
  if ds.length = count then
    let code := ds.foldl (fun n d => 16 * n + d) 0
    if code.isValidChar then some (Char.ofNat code, cs.drop count) else none
  else none

/-- Whether a character is an octal digit. -/
def isOctal (c : Char) : Bool := '0' ≤ c && c ≤ '7'

/-- The character with the code given by the octal digits. -/
def octalChar (ds : List Char) : Char :=
  Char.ofNat (ds.foldl (fun n c => 8 * n + (c.toNat - '0'.toNat)) 0)

/-- Control characters that are written with a letter. -/
def controlLetter? : Char → Option Char
  | 'a' => some '\x07'
  | 'f' => some '\x0c'
  | 'n' => some '\n'
  | 'r' => some '\r'
  | 't' => some '\t'
  | 'v' => some '\x0b'
  | _ => none

/-- Classes that are written with a letter. -/
def classLetter? : Char → Option ClassItem
  | 'd' => some (.digit true)
  | 'D' => some (.digit false)
  | 'w' => some (.word true)
  | 'W' => some (.word false)
  | 's' => some (.blank true)
  | 'S' => some (.blank false)
  | _ => none

/-- The pattern of one literal character. -/
def literal (c : Char) : Pattern := .one true [.between c c]

/-- An escape that stands for one character in and out of brackets, given the
characters after the backslash. -/
def escapedChar? : List Char → Option (Char × List Char)
  | [] => none
  | 'x' :: cs => coded? 2 cs
  | 'u' :: cs => coded? 4 cs
  | 'U' :: cs => coded? 8 cs
  | c :: cs =>
    match controlLetter? c with
    | some d => some (d, cs)
    | none => if c.isAlphanum then none else some (c, cs)

/-- The octal digits at the front, at most so many. -/
def octalRun (count : Nat) (cs : List Char) : List Char := (cs.take count).takeWhile isOctal

/-- Three octal digits that name a character below 256. -/
def threeOctal? (cs : List Char) : Option (Char × List Char) :=
  let ds := octalRun 3 cs
  if ds.length = 3 && (octalChar ds).toNat < 0x100 then some (octalChar ds, cs.drop 3) else none

/-- An escape out of brackets: its pattern, whether it is an anchor, and the
characters after it. -/
def escape? : List Char → Option (Pattern × Bool × List Char)
  | 'A' :: cs => some (.start, true, cs)
  | 'Z' :: cs => some (.finish, true, cs)
  | 'b' :: cs => some (.wordEdge true, true, cs)
  | 'B' :: cs => some (.wordEdge false, true, cs)
  | '0' :: cs =>
    let ds := octalRun 2 cs
    some (literal (octalChar ds), false, cs.drop ds.length)
  | cs =>
    match cs.head?.bind classLetter? with
    | some item => some (.one true [item], false, cs.drop 1)
    | none =>
      match escapedChar? cs <|> threeOctal? cs with
      | some (c, rest) => some (literal c, false, rest)
      | none => none

/-- An escape in brackets: its entry and the characters after it. -/
def classEscape? : List Char → Option (ClassItem × List Char)
  | 'b' :: cs => some (.between '\x08' '\x08', cs)
  | cs =>
    match cs.head?.bind classLetter? with
    | some item => some (item, cs.drop 1)
    | none =>
      match escapedChar? cs with
      | some (c, rest) => some (.between c c, rest)
      | none =>
        let ds := octalRun 3 cs
        if ds.isEmpty || (octalChar ds).toNat ≥ 0x100 then none
        else some (.between (octalChar ds) (octalChar ds), cs.drop ds.length)

/-! ## Bracketed classes -/

/-- One entry of a class: an escape or a plain character. -/
def classEntry? : List Char → Option (ClassItem × List Char)
  | [] => none
  | '\\' :: cs => classEscape? cs
  | c :: cs => some (.between c c, cs)

/-- The range between two entries that are single characters. -/
def range? : ClassItem → ClassItem → Option ClassItem
  | .between a a', .between b b' =>
    if a == a' && b == b' && a ≤ b then some (.between a b) else none
  | _, _ => none

/-- The entries of a class up to its closing bracket, which may also stand as
the first entry. The first argument bounds the number of entries. -/
def classItems? : Nat → List ClassItem → List Char → Option (List ClassItem × List Char)
  | 0, _, _ => none
  | fuel + 1, items, cs =>
    if cs.head? == some ']' && !items.isEmpty then some (items, cs.drop 1)
    else
      match classEntry? cs with
      | none => none
      | some (item, '-' :: ']' :: rest) => some (items ++ [item, .between '-' '-'], rest)
      | some (item, '-' :: rest) =>
        match classEntry? rest with
        | none => none
        | some (last, rest) =>
          match range? item last with
          | some r => classItems? fuel (items ++ [r]) rest
          | none => none
      | some (item, rest) => classItems? fuel (items ++ [item]) rest

/-- A class, given the characters after its opening bracket. -/
def class? (cs : List Char) : Option (Pattern × List Char) :=
  let (member, cs) := match cs with
    | '^' :: cs => (false, cs)
    | cs => (true, cs)
  (classItems? (cs.length + 1) [] cs).map fun r => (.one member r.1, r.2)

/-! ## Repetitions -/

/-- The plain digits at the front and the rest. -/
def digitRun (cs : List Char) : List Char × List Char :=
  (cs.takeWhile isPlainDigit, cs.dropWhile isPlainDigit)

/-- What follows a pattern: how often it is repeated and the characters after
that, or nothing of the kind. A brace that does not open a count is a plain
character. -/
inductive Repetition where
  | absent
  | refused
  | counted (least : Nat) (most : Option Nat) (rest : List Char)

/-- A count in braces, given the characters after the opening brace. -/
def countedBraces (cs : List Char) : Repetition :=
  let (low, rest) := digitRun cs
  let (high, rest) := match rest with
    | ',' :: rest => digitRun rest
    | rest => (low, rest)
  match cs, rest with
  | '}' :: _, _ => .absent
  | _, '}' :: rest =>
    let least := number low
    let most := if high.isEmpty then none else some (number high)
    if most.any (· < least) then .refused else .counted least most rest
  | _, _ => .absent

/-- The repetition at the front of the characters. -/
def repetition : List Char → Repetition
  | '*' :: cs => .counted 0 none cs
  | '+' :: cs => .counted 1 none cs
  | '?' :: cs => .counted 0 (some 1) cs
  | '{' :: cs => countedBraces cs
  | _ => .absent

/-- The characters after a sign that chooses how a search proceeds. -/
def afterManner : List Char → List Char
  | '?' :: cs => cs
  | '+' :: cs => cs
  | cs => cs

/-! ## Expressions -/

/-- What the last part of a branch was, which decides if it can be repeated. -/
inductive Last where
  | absent
  | anchor
  | repeated
  | plain
deriving DecidableEq

/-- A name of a group and the characters after it. -/
def groupName? (cs : List Char) : Option (List Char) :=
  let name := cs.takeWhile (· != '>')
  match name, cs.drop name.length with
  | c :: _, '>' :: rest =>
    if isWordChar c && !isDigit c && name.all isWordChar then some rest else none
  | _, _ => none

/-- The characters after the opening of a group. -/
def groupBody? : List Char → Option (List Char)
  | '?' :: ':' :: cs => some cs
  | '?' :: 'P' :: '<' :: cs => groupName? cs
  | '?' :: _ => none
  | cs => some cs

mutual

/-- Alternatives up to a closing parenthesis or the end. -/
def alternatives? : Nat → List Char → Option (Pattern × List Char)
  | 0, _ => none
  | fuel + 1, cs =>
    match branch? fuel .nothing .nothing .absent cs with
    | none => none
    | some (left, '|' :: rest) =>
      (alternatives? fuel rest).map fun r => (.choice left r.1, r.2)
    | some r => some r

/-- The parts of one branch: `done` is what precedes the part read last. -/
def branch? : Nat → Pattern → Pattern → Last → List Char → Option (Pattern × List Char)
  | 0, _, _, _, _ => none
  | fuel + 1, done, part, last, cs =>
    let go (next : Pattern) (kind : Last) (rest : List Char) :=
      branch? fuel (.chain done part) next kind rest
    match repetition cs with
    | .refused => none
    | .counted least most rest =>
      if last = .plain then
        branch? fuel done (.times least most part) .repeated (afterManner rest)
      else none
    | .absent =>
      match cs with
      | [] => some (.chain done part, [])
      | '|' :: _ => some (.chain done part, cs)
      | ')' :: _ => some (.chain done part, cs)
      | '^' :: rest => go .start .anchor rest
      | '$' :: rest => go .lastLine .anchor rest
      | '.' :: rest => go (.one false [.between '\n' '\n']) .plain rest
      | '[' :: rest =>
        match class? rest with
        | some (p, rest) => go p .plain rest
        | none => none
      | '(' :: rest =>
        match (groupBody? rest).bind (alternatives? fuel) with
        | some (p, ')' :: rest) => go p .plain rest
        | _ => none
      | '\\' :: rest =>
        match escape? rest with
        | some (p, anchor, rest) => go p (if anchor then .anchor else .plain) rest
        | none => none
      | c :: rest => go (literal c) .plain rest

end

/-- The pattern that a notation denotes, if it is well formed. -/
def ofString? (s : String) : Option Pattern :=
  match alternatives? (2 * s.length + 2) s.toList with
  | some (p, []) => some p
  | _ => none

end SchoolRegistry.Text.Pattern
