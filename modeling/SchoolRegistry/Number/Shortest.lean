import SchoolRegistry.Number.Double
import SchoolRegistry.Text.Digit

/-!
# The shortest decimal text of a number

A number of the binary format is written with the fewest decimal digits that
read back as the same number; of two such texts of equal length the nearer one
is taken. `Layout` holds the decisions that are a matter of taste rather than
arithmetic: where positional notation ends and how an exponent looks.
-/

namespace SchoolRegistry

namespace Double

/-- Decimal digits and a power of ten: `digits * 10 ^ power`. -/
structure Decimal where
  digits : Nat
  power : Int

/-- The number of decimal digits of a whole number. -/
def digitCount (n : Nat) : Nat := (Nat.toDigits 10 n).length

/-- The power of ten of the leading digit of a positive quotient. -/
def leadingPower (num den : Nat) : Int :=
  if den ≤ num then (digitCount (num / den) : Int) - 1
  else
    match (List.range 400).find? fun k => den ≤ num * Nat.pow 10 k with
    | some k => -(k : Int)
    | none => -400

/-- The two neighbours of a positive quotient on the grid of multiples of
`10 ^ power`, the nearer one first; of equally near ones the even one. -/
def neighbours (num den : Nat) (power : Int) : List Decimal :=
  let n := num * Nat.pow 10 (-power).toNat
  let d := den * Nat.pow 10 power.toNat
  let below : Decimal := ⟨n / d, power⟩
  let above : Decimal := ⟨n / d + 1, power⟩
  let belowFirst := 2 * (n % d) < d || (2 * (n % d) == d && n / d % 2 == 0)
  if belowFirst then [below, above] else [above, below]

/-- The decimal with `count` digits that reads back as the number, if any. -/
def readBack? (x : Double) (num den : Nat) (lead : Int) (count : Nat) : Option Decimal :=
  (neighbours num den (lead - (count : Int) + 1)).find? fun d =>
    ofDecimal false d.digits d.power == x

/-- The shortest decimal of a positive finite number: seventeen digits are
always enough. -/
def shortest (x : Double) : Decimal :=
  let num := x.num.toNat
  let lead := leadingPower num x.den
  match (List.range 17).findSome? fun k => readBack? x num x.den lead (k + 1) with
  | some d => d
  | none => ⟨num / x.den, 0⟩

/-- A decimal without zeros at its end, as its digits and the place of the
point counted from the front of them. -/
def Decimal.placed (d : Decimal) : List Char × Int :=
  let all := Nat.toDigits 10 d.digits
  let kept := (all.reverse.dropWhile (· == '0')).reverse
  (kept, (all.length : Int) + d.power)

/-- How a number is laid out as text. -/
structure Layout where
  /-- The least place of the point that is written positionally. -/
  leastPlace : Int
  /-- The greatest place of the point that is written positionally. -/
  greatestPlace : Int
  /-- The least number of digits of an exponent. -/
  exponentWidth : Nat

/-- Numbers from one ten-thousandth up to sixteen digits before the point are
written positionally, always with a digit after the point; an exponent has a
sign and two digits. -/
def standardLayout : Layout := ⟨-3, 16, 2⟩

/-- The text of the digits with the point at the given place. -/
def positional (ds : List Char) (place : Int) : List Char :=
  if place ≤ 0 then '0' :: '.' :: (List.replicate (-place).toNat '0' ++ ds)
  else if place < (ds.length : Int) then
    ds.take place.toNat ++ '.' :: ds.drop place.toNat
  else ds ++ List.replicate (place.toNat - ds.length) '0' ++ ['.', '0']

/-- The text of the digits with one digit before the point and an exponent. -/
def scientific (width : Nat) (ds : List Char) (place : Int) : List Char :=
  let exponent := place - 1
  let shown := Nat.toDigits 10 exponent.natAbs
  let body := match ds with
    | [] => ['0']
    | [d] => [d]
    | d :: rest => d :: '.' :: rest
  body ++ 'e' :: (if exponent < 0 then '-' else '+')
    :: (List.replicate (width - shown.length) '0' ++ shown)

/-- The text of the size of a finite number. -/
def layOut (l : Layout) (x : Double) : List Char :=
  if x.isZero then ['0', '.', '0']
  else
    let (ds, place) := x.shortest.placed
    if l.leastPlace ≤ place && place ≤ l.greatestPlace then positional ds place
    else scientific l.exponentWidth ds place

/-- The text of a number. -/
def toText : Double → String
  | finite negative m e =>
    let body := layOut standardLayout (finite false m e)
    String.ofList (if negative then '-' :: body else body)
  | infinite negative => if negative then "-inf" else "inf"

end Double

end SchoolRegistry
