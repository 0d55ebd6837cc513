import SchoolRegistry.Value.Basic

/-!
# Equality of dynamic values

Scalars are equal by value, so one, one point zero and yes are the same. Lists
and tuples are compared member by member and never equal each other. Sets and
tables do not depend on an order. Two records are equal when model, version and
fields are.
-/

namespace SchoolRegistry.Value

mutual

/-- Whether two values are equal. -/
def same : Value → Value → Bool
  | null, null => true
  | list xs, list ys => sameItems xs ys
  | tuple xs, tuple ys => sameItems xs ys
  | set xs, set ys => xs.length == ys.length && amongItems xs ys
  | table xs, table ys => xs.length == ys.length && amongEntries xs ys
  | record m v xs, record m' v' ys =>
    m == m' && v.same v' && xs.length == ys.length && amongEntries xs ys
  | object xs, object ys => xs.length == ys.length && amongEntries xs ys
  | a, b =>
    match a.scalar?, b.scalar? with
    | some x, some y => x.same y
    | _, _ => false

/-- Whether two lists have equal members in the same order. -/
def sameItems : List Value → List Value → Bool
  | [], [] => true
  | x :: xs, y :: ys => x.same y && sameItems xs ys
  | _, _ => false

/-- Whether every member of the first list equals one of the second. -/
def amongItems : List Value → List Value → Bool
  | [], _ => true
  | x :: xs, ys => ys.any (fun y => x.same y) && amongItems xs ys

/-- Whether every entry of the first table is in the second. -/
def amongEntries : List (String × Value) → List (String × Value) → Bool
  | [], _ => true
  | (k, x) :: xs, ys =>
    (match ys.lookup k with
      | some y => x.same y
      | none => false) && amongEntries xs ys

end

end SchoolRegistry.Value
