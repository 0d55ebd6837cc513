/-!
# Binary floating-point numbers

Numbers of the 64-bit binary format, held exactly: a sign, a whole mantissa and
a power of two. `ofRatio` rounds a quotient to the nearest such number, ties to
the even mantissa; every other operation is exact. Not-a-number is left out,
since no text denotes it.
-/

namespace SchoolRegistry

/-- A number of the 64-bit binary format. A finite one is
`± mantissa * 2 ^ exponent`, with the mantissa below `2 ^ 53` and the exponent
at least `-1074`; the two zeros differ in their sign only. -/
inductive Double where
  | finite (negative : Bool) (mantissa : Nat) (exponent : Int)
  | infinite (negative : Bool)
deriving DecidableEq, Inhabited

namespace Double

/-! ## Rounding -/

/-- The quotient rounded to the nearest whole number, ties to the even one. -/
def divideToEven (num den : Nat) : Nat :=
  let q := num / den
  let r := num % den
  if 2 * r < den then q
  else if den < 2 * r then q + 1
  else if q % 2 = 0 then q else q + 1

/-- The quotient `num / (den * 2 ^ shift)` as a quotient of whole numbers. -/
def shifted (num den : Nat) (shift : Int) : Nat × Nat :=
  (num * Nat.pow 2 (-shift).toNat, den * Nat.pow 2 shift.toNat)

/-- The exponent at which a positive quotient has a mantissa of 53 bits, or the
least exponent of the format. -/
def exponentOf (num den : Nat) : Int :=
  let guess : Int := (num.log2 : Int) - (den.log2 : Int) - 52
  let (n, d) := shifted num den guess
  let exponent := if n / d < Nat.pow 2 52 then guess - 1 else guess
  max exponent (-1074)

/-- The number of the format nearest to `± num / den`, for a positive `den`. -/
def ofSignedRatio (negative : Bool) (num den : Nat) : Double :=
  if num = 0 then finite negative 0 (-1074)
  else
    let exponent := exponentOf num den
    let (n, d) := shifted num den exponent
    let m := divideToEven n d
    let (m, e) := if m = Nat.pow 2 53 then (Nat.pow 2 52, exponent + 1) else (m, exponent)
    if e > 971 then infinite negative else finite negative m e

/-- The number of the format nearest to `num / den`. -/
def ofRatio (num den : Nat) : Double := ofSignedRatio false num den

/-- The number of the format nearest to a whole number. -/
def ofNat (n : Nat) : Double := ofRatio n 1

/-- The number of the format nearest to `± digits * 10 ^ power`. -/
def ofDecimal (negative : Bool) (digits : Nat) (power : Int) : Double :=
  ofSignedRatio negative (digits * Nat.pow 10 power.toNat) (Nat.pow 10 (-power).toNat)

/-! ## Exact value -/

/-- The numerator of the exact value; the denominator is `den`. -/
def num : Double → Int
  | finite negative m e =>
    let n : Nat := m * Nat.pow 2 e.toNat
    if negative then -(n : Int) else n
  | infinite _ => 0

/-- The denominator of the exact value, a power of two. -/
def den : Double → Nat
  | finite _ _ e => Nat.pow 2 (-e).toNat
  | infinite _ => 1

/-- The sign of an infinity, and zero for a finite number. -/
def infinity : Double → Int
  | finite .. => 0
  | infinite negative => if negative then -1 else 1

/-- The order of two numbers by their values; the two zeros are equal. -/
def compare (a b : Double) : Ordering :=
  match Ord.compare a.infinity b.infinity with
  | .eq => Ord.compare (a.num * b.den) (b.num * a.den)
  | o => o

/-- The order of a whole number and a number of the format, by value. -/
def compareInt (n : Int) (b : Double) : Ordering :=
  match Ord.compare 0 b.infinity with
  | .eq => Ord.compare (n * b.den) b.num
  | o => o

/-- Whether the value is zero. -/
def isZero : Double → Bool
  | finite _ m _ => m == 0
  | infinite _ => false

/-- The whole number next to the value in the direction of zero. -/
def truncate? : Double → Option Int
  | x@(finite ..) => some (Int.tdiv x.num x.den)
  | infinite _ => none

/-- The value, if it is a whole number. -/
def whole? : Double → Option Int
  | x@(finite ..) => if x.num % x.den = 0 then some (x.num / x.den) else none
  | infinite _ => none

end Double

end SchoolRegistry
