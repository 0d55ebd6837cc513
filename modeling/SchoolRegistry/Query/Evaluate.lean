import SchoolRegistry.Failure
import SchoolRegistry.Query.Basic
import SchoolRegistry.Value.Order
import SchoolRegistry.Value.Path

/-!
# Evaluation of queries

A query evaluated on a list: `holds` says which candidates match, `arranged`
puts them in order, `window` cuts out the part that is asked for. The number of
matches does not depend on the window.

Sorting goes through the keys from the last to the first and is stable, so that
earlier keys weigh more and ties keep their order. Missing values stand last in
ascending order and first in descending order. A key whose values cannot all be
compared sorts nothing and fails.
-/

namespace SchoolRegistry

/-- A page of matches and the number of all matches. -/
structure Counted (α : Type) where
  items : List α
  total : Int

/-! ## Conditions -/

/-- Whether the value at the field equals the one demanded. -/
def Condition.holds (c : Condition) (v : Value) : Bool := (v.resolve c.field).same c.value

/-- Whether all conditions hold, or one of them, as the connective says. -/
def ConditionGroup.holds (g : ConditionGroup) (v : Value) : Bool :=
  match g.connective with
  | .all => g.conditions.all (·.holds v)
  | .any => g.conditions.any (·.holds v)

/-- Whether every group holds. -/
def Query.holds (q : Query) (v : Value) : Bool := q.groups.all (·.holds v)

/-! ## Order -/

/-- The order of two values with missing ones after all others. -/
def Value.compareNullsLast (a b : Value) : Ordering :=
  match a.isNull, b.isNull with
  | true, true => .eq
  | true, false => .gt
  | false, true => .lt
  | false, false => (a.compare? b).getD .eq

/-- Whether the first value may stand before the second. -/
def Direction.keeps (d : Direction) (a b : Value) : Bool :=
  match d with
  | .ascending => a.compareNullsLast b != .gt
  | .descending => a.compareNullsLast b != .lt

namespace Query

variable {α : Type}

/-- The items in the order of one key. -/
def sortedByKey (view : α → Value) (k : SortKey) (items : List α) : Except Failure (List α) :=
  let at' (x : α) : Value := (view x).resolve k.field
  if Value.sortable ((items.map at').filter fun v => !v.isNull) then
    .ok (items.mergeSort fun x y => k.direction.keeps (at' x) (at' y))
  else .error .wrongType

/-- The items in the order of all keys, of which the first weighs most. -/
def arranged (view : α → Value) : List SortKey → List α → Except Failure (List α)
  | [], items => .ok items
  | k :: keys, items =>
    match arranged view keys items with
    | .ok items => sortedByKey view k items
    | .error e => .error e

/-! ## Windows -/

/-- The place in a list of the given length that a number means: a negative one
counts from the end. -/
def place (length : Nat) (i : Int) : Nat :=
  if i < 0 then (i + length).toNat else min length i.toNat

/-- The part of a list that begins at the offset and has at most as many items
as the limit says. -/
def window (offset limit : Option Int) (items : List α) : List α :=
  let start := offset.getD 0
  let ends := match limit with
    | some n => place items.length (start + n)
    | none => items.length
  (items.take ends).drop (place items.length start)

/-! ## Evaluation -/

/-- The matches among the candidates. -/
def matching (q : Query) (view : α → Value) (candidates : List α) : List α :=
  candidates.filter fun c => q.holds (view c)

/-- The page of matches that is asked for, and how many there are in all. -/
def evaluate (q : Query) (view : α → Value) (candidates : List α) :
    Except Failure (Counted α) :=
  let found := q.matching view candidates
  (arranged view q.sort found).map fun items => ⟨window q.offset q.limit items, found.length⟩

end Query

end SchoolRegistry
