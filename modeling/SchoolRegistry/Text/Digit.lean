import SchoolRegistry.Text.CharClass

/-!
# Decimal digits

The decimal digits of every script (Unicode 14) with their values, the reading
of a run of digits, and decimal numerals of a fixed width. Every range of the
table holds whole decades starting at a zero, which is why a digit's value is
its position modulo ten.
-/

namespace SchoolRegistry.Text

/-- The decimal digits of every script, each range starting at a zero. -/
def digits : CharClass where
  ranges := [
    (0x30, 0x39), (0x660, 0x669), (0x6f0, 0x6f9), (0x7c0, 0x7c9), (0x966, 0x96f), (0x9e6, 0x9ef),
    (0xa66, 0xa6f), (0xae6, 0xaef), (0xb66, 0xb6f), (0xbe6, 0xbef), (0xc66, 0xc6f),
    (0xce6, 0xcef), (0xd66, 0xd6f), (0xde6, 0xdef), (0xe50, 0xe59), (0xed0, 0xed9),
    (0xf20, 0xf29), (0x1040, 0x1049), (0x1090, 0x1099), (0x17e0, 0x17e9), (0x1810, 0x1819),
    (0x1946, 0x194f), (0x19d0, 0x19d9), (0x1a80, 0x1a89), (0x1a90, 0x1a99), (0x1b50, 0x1b59),
    (0x1bb0, 0x1bb9), (0x1c40, 0x1c49), (0x1c50, 0x1c59), (0xa620, 0xa629), (0xa8d0, 0xa8d9),
    (0xa900, 0xa909), (0xa9d0, 0xa9d9), (0xa9f0, 0xa9f9), (0xaa50, 0xaa59), (0xabf0, 0xabf9),
    (0xff10, 0xff19), (0x104a0, 0x104a9), (0x10d30, 0x10d39), (0x11066, 0x1106f),
    (0x110f0, 0x110f9), (0x11136, 0x1113f), (0x111d0, 0x111d9), (0x112f0, 0x112f9),
    (0x11450, 0x11459), (0x114d0, 0x114d9), (0x11650, 0x11659), (0x116c0, 0x116c9),
    (0x11730, 0x11739), (0x118e0, 0x118e9), (0x11950, 0x11959), (0x11c50, 0x11c59),
    (0x11d50, 0x11d59), (0x11da0, 0x11da9), (0x16a60, 0x16a69), (0x16ac0, 0x16ac9),
    (0x16b50, 0x16b59), (0x1d7ce, 0x1d7ff), (0x1e140, 0x1e149), (0x1e2f0, 0x1e2f9),
    (0x1e950, 0x1e959), (0x1fbf0, 0x1fbf9)]

/-- The value of a decimal digit of any script. -/
def digitValue? (c : Char) : Option Nat := (digits.offset? c).map (· % 10)

/-- A decimal digit of any script. -/
def isDigit (c : Char) : Bool := (digitValue? c).isSome

/-- The value of one of the ten plain digits. -/
def plainDigit? (c : Char) : Option Nat :=
  if '0' ≤ c && c ≤ '9' then some (c.toNat - '0'.toNat) else none

/-- One of the ten plain digits. -/
def isPlainDigit (c : Char) : Bool := (plainDigit? c).isSome

/-- The plain digit of a value below ten. -/
def digitChar (n : Nat) : Char := Char.ofNat ('0'.toNat + n % 10)

/-- The number a run of plain digits denotes; other characters count as zero. -/
def number (cs : List Char) : Nat :=
  cs.foldl (fun n c => 10 * n + (plainDigit? c).getD 0) 0

/-- The last `width` decimal digits of a number, with zeros in front. -/
def paddedChars : Nat → Nat → List Char
  | 0, _ => []
  | width + 1, n => paddedChars width (n / 10) ++ [digitChar n]

/-- A number with exactly `width` decimal digits. -/
def padded (width n : Nat) : String := String.ofList (paddedChars width n)

/-- The lower-case hexadecimal digit of a value below sixteen. -/
def hexDigit (n : Nat) : Char :=
  if n < 10 then Char.ofNat ('0'.toNat + n) else Char.ofNat ('a'.toNat + (n - 10))

/-- The last `width` hexadecimal digits of a number. -/
def paddedHex : Nat → Nat → List Char
  | 0, _ => []
  | width + 1, n => paddedHex width (n / 16) ++ [hexDigit (n % 16)]

/-- A decimal numeral of any script with single underscores between digits;
`last` tells whether a digit came last. -/
def numeral? : Bool → Nat → List Char → Option Nat
  | last, n, [] => if last then some n else none
  | last, n, c :: cs =>
    match digitValue? c with
    | some d => numeral? true (10 * n + d) cs
    | none => if c == '_' && last then numeral? false n cs else none

/-- A decimal numeral of any script with perhaps a sign. -/
def integer? : List Char → Option Int
  | '-' :: cs => (numeral? false 0 cs).map fun n => -(n : Int)
  | '+' :: cs => (numeral? false 0 cs).map fun n => (n : Int)
  | cs => (numeral? false 0 cs).map fun n => (n : Int)

end SchoolRegistry.Text
