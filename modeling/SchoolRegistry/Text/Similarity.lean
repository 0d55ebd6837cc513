import SchoolRegistry.Number.Double

/-!
# Similar names

How alike two names are, and the names of a list that come close to a given
one. Likeness is the share of characters covered by common runs: the longest
common run is taken, and the parts to its left and to its right are matched the
same way.

In a long target (200 characters or more) a character that makes up over one
hundredth of it does not start a run, though a run may be extended over it.
-/

namespace SchoolRegistry.Text

/-! ## Common runs -/

/-- The number of leading characters two texts share, among those allowed. -/
def sharedFront (allowed : Char → Bool) : List Char → List Char → Nat
  | a :: as, b :: bs => if a == b && allowed a then sharedFront allowed as bs + 1 else 0
  | _, _ => 0

/-- A common run: where it starts in either text, and its length. -/
structure Run where
  left : Nat
  right : Nat
  size : Nat

/-- The longest run that starts at the head of `a` and anywhere in `b`; of
equally long ones the first. -/
def longestFrom (allowed : Char → Bool) (i : Nat) (a : List Char) :
    Nat → List Char → Run → Run
  | _, [], best => best
  | j, b :: bs, best =>
    let size := sharedFront allowed a (b :: bs)
    longestFrom allowed i a (j + 1) bs (if best.size < size then ⟨i, j, size⟩ else best)

/-- The longest run of two texts; of equally long ones the first in `a`, then
the first in `b`. -/
def longestRun (allowed : Char → Bool) (b : List Char) : Nat → List Char → Run → Run
  | _, [], best => best
  | i, a :: as, best =>
    longestRun allowed b (i + 1) as (longestFrom allowed i (a :: as) 0 b best)

/-- A run stretched in both directions over any equal characters. -/
def stretched (a b : List Char) (r : Run) : Run :=
  let anyChar : Char → Bool := fun _ => true
  let before := sharedFront anyChar (a.take r.left).reverse (b.take r.right).reverse
  let after := sharedFront anyChar (a.drop (r.left + r.size)) (b.drop (r.right + r.size))
  ⟨r.left - before, r.right - before, before + r.size + after⟩

/-- The number of characters covered by common runs. The first argument bounds
the nesting, for which the length of `a` is enough. -/
def coveredWithin (allowed : Char → Bool) : Nat → List Char → List Char → Nat
  | 0, _, _ => 0
  | fuel + 1, a, b =>
    let r := stretched a b (longestRun allowed b 0 a ⟨0, 0, 0⟩)
    if r.size = 0 then 0
    else r.size + coveredWithin allowed fuel (a.take r.left) (b.take r.right)
      + coveredWithin allowed fuel (a.drop (r.left + r.size)) (b.drop (r.right + r.size))

/-- Whether a character of the target may start a run. -/
def startsRun (target : List Char) (c : Char) : Bool :=
  target.length < 200 || target.count c ≤ target.length / 100 + 1

/-- The number of characters of a candidate that common runs with the target
cover. -/
def covered (candidate target : List Char) : Nat :=
  coveredWithin (startsRun target) candidate.length candidate target

/-- The likeness of two texts, from 0 to 1: twice the covered characters over
the characters of both. Two empty texts are alike. -/
def likeness (candidate target : String) : Double :=
  let total := candidate.length + target.length
  if total = 0 then Double.ofNat 1
  else Double.ofRatio (2 * covered candidate.toList target.toList) total

/-! ## Close names -/

/-- The order of suggestions: the likest first, of equally like ones the larger
text first. -/
def likerFirst (a b : Double × String) : Bool :=
  match a.1.compare b.1 with
  | .gt => true
  | .lt => false
  | .eq => b.2 ≤ a.2

/-- At most `count` names whose likeness to the target reaches the given one. -/
def closeNames (count : Nat) (reaches : Double → Bool) (target : String)
    (names : List String) : List String :=
  let scored := names.map fun name => (likeness name target, name)
  (((scored.filter fun s => reaches s.1).mergeSort likerFirst).take count).map (·.2)

end SchoolRegistry.Text
