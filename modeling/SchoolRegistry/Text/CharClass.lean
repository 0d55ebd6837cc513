/-!
# Classes of characters

A class of characters is a list of closed ranges of code points. The tables
beside this module are values of the one type defined here, so membership is
decided in one place and every table is plain data.

The first table is that of the characters that count as surrounding space:
Unicode white space together with the four information separators U+001C to
U+001F. The zero-width space and the byte order mark are not in it.
-/

namespace SchoolRegistry.Text

/-- A set of characters, given by the closed ranges of code points it covers. -/
structure CharClass where
  ranges : List (Nat × Nat)

namespace CharClass

/-- A character belongs to the class when one of the ranges covers it. -/
def contains (k : CharClass) (c : Char) : Bool :=
  k.ranges.any fun r => r.1 ≤ c.toNat && c.toNat ≤ r.2

/-- The position of a character inside the range that covers it. -/
def offset? (k : CharClass) (c : Char) : Option Nat :=
  (k.ranges.find? fun r => r.1 ≤ c.toNat && c.toNat ≤ r.2).map fun r => c.toNat - r.1

end CharClass

/-! ## Blanks -/

/-- The characters that count as space. -/
def blanks : CharClass where
  ranges := [(0x9, 0xd), (0x1c, 0x20), (0x85, 0x85), (0xa0, 0xa0), (0x1680, 0x1680),
    (0x2000, 0x200a), (0x2028, 0x2029), (0x202f, 0x202f), (0x205f, 0x205f), (0x3000, 0x3000)]

/-- A character that trimming removes. -/
def isBlank (c : Char) : Bool := blanks.contains c

/-- The characters left after removing blanks from the front. -/
def trimFront (cs : List Char) : List Char := cs.dropWhile isBlank

/-- The characters left after removing blanks from both ends. -/
def trimChars (cs : List Char) : List Char :=
  (trimFront (trimFront cs).reverse).reverse

/-- A text without the blanks at its two ends. -/
def trim (s : String) : String := String.ofList (trimChars s.toList)

/-- Whether trimming would leave the text as it is. -/
def isTrimmed (s : String) : Bool := trim s == s

end SchoolRegistry.Text
