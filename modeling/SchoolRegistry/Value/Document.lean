import SchoolRegistry.Number.Shortest
import SchoolRegistry.Text.Digit
import SchoolRegistry.Value.Basic

/-!
# The text of documents

How a value is written as a document: texts between quotation marks with every
character outside the printable plain range escaped, lists and tables with a
space after each comma and colon. Terms count as texts and tuples as lists.
Days, moments, sets and instances of models have no such text.
-/

namespace SchoolRegistry.Value

/-! ## Texts -/

/-- An escaped unit of sixteen bits. -/
def escapedUnit (n : Nat) : List Char := '\\' :: 'u' :: Text.paddedHex 4 n

/-- A character of a text of a document. -/
def documentChar (c : Char) : List Char :=
  if c == '\x22' then ['\\', '\x22']
  else if c == '\\' then ['\\', '\\']
  else if c == '\n' then ['\\', 'n']
  else if c == '\r' then ['\\', 'r']
  else if c == '\t' then ['\\', 't']
  else if c == '\x08' then ['\\', 'b']
  else if c == '\x0c' then ['\\', 'f']
  else if c.toNat < 0x20 || (0x7e < c.toNat && c.toNat < 0x10000) then escapedUnit c.toNat
  else if c.toNat < 0x10000 then [c]
  else
    let n := c.toNat - 0x10000
    escapedUnit (0xd800 + n / 0x400) ++ escapedUnit (0xdc00 + n % 0x400)

/-- A text of a document. -/
def documentString (s : String) : String :=
  String.ofList ('\x22' :: s.toList.flatMap documentChar ++ ['\x22'])

/-! ## Values -/

mutual

/-- The text of a value as a document, if it has one. -/
def documentText? : Value → Option String
  | null => some "null"
  | flag yes => some (if yes then "true" else "false")
  | whole n => some (toString n)
  | real x => some x.toText
  | text s => some (documentString s)
  | choice t => some (documentString t.text)
  | list items => (documentItems? items).map fun ss => "[" ++ ", ".intercalate ss ++ "]"
  | tuple items => (documentItems? items).map fun ss => "[" ++ ", ".intercalate ss ++ "]"
  | table entries =>
    (documentEntries? entries).map fun ss => "\x7b" ++ ", ".intercalate ss ++ "\x7d"
  | _ => none

/-- The texts of the members of a list. -/
def documentItems? : List Value → Option (List String)
  | [] => some []
  | v :: vs =>
    match v.documentText?, documentItems? vs with
    | some s, some ss => some (s :: ss)
    | _, _ => none

/-- The texts of the entries of a table. -/
def documentEntries? : List (String × Value) → Option (List String)
  | [] => some []
  | (k, v) :: rest =>
    match v.documentText?, documentEntries? rest with
    | some s, some ss => some ((documentString k ++ ": " ++ s) :: ss)
    | _, _ => none

end

end SchoolRegistry.Value
