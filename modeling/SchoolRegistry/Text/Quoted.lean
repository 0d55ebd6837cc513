import SchoolRegistry.Text.Digit
import SchoolRegistry.Text.Printable

/-!
# Quoted text

The quoted spelling of a text in messages: between single quotation marks, or
between double ones when the text itself holds a single mark and no double one.
The mark used, the backslash and every character without a printed shape are
written as escapes, the others as they are.
-/

namespace SchoolRegistry.Text

/-- The single quotation mark. -/
def singleMark : Char := '\x27'

/-- The double quotation mark. -/
def doubleMark : Char := '\x22'

/-- The mark that surrounds a quoted text. -/
def quotationMark (cs : List Char) : Char :=
  if cs.contains singleMark && !cs.contains doubleMark then doubleMark else singleMark

/-- How one character is written between the given marks. -/
def quotedChar (mark c : Char) : List Char :=
  if c == mark || c == '\\' then ['\\', c]
  else if c == '\t' then ['\\', 't']
  else if c == '\n' then ['\\', 'n']
  else if c == '\r' then ['\\', 'r']
  else if isPrintable c then [c]
  else if c.toNat < 0x100 then '\\' :: 'x' :: paddedHex 2 c.toNat
  else if c.toNat < 0x10000 then '\\' :: 'u' :: paddedHex 4 c.toNat
  else '\\' :: 'U' :: paddedHex 8 c.toNat

/-- The quoted spelling of a run of characters. -/
def quotedChars (cs : List Char) : List Char :=
  let mark := quotationMark cs
  mark :: cs.flatMap (quotedChar mark) ++ [mark]

/-- The quoted spelling of a text. -/
def quoted (s : String) : String := String.ofList (quotedChars s.toList)

end SchoolRegistry.Text
