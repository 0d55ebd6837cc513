import SchoolRegistry.Value.Equal

/-!
# Order of dynamic values

Scalars of one kind are ordered, lists and tuples by their first difference.
Values that are neither equal nor ordered cannot be compared; `sortable` says
when a list can be put in order.
-/

namespace SchoolRegistry.Value

mutual

/-- The order of two values, if they can be compared. -/
def compare? : Value → Value → Option Ordering
  | list xs, list ys => compareItems? xs ys
  | tuple xs, tuple ys => compareItems? xs ys
  | a, b =>
    if a.same b then some .eq
    else match a.scalar?, b.scalar? with
      | some x, some y => x.compare? y
      | _, _ => none

/-- The order of two lists by their first difference. -/
def compareItems? : List Value → List Value → Option Ordering
  | [], [] => some .eq
  | [], _ :: _ => some .lt
  | _ :: _, [] => some .gt
  | x :: xs, y :: ys =>
    match x.compare? y with
    | some .eq => compareItems? xs ys
    | o => o

end

/-- Whether any two values of the list can be compared. -/
def sortable : List Value → Bool
  | [] => true
  | x :: xs => xs.all (fun y => (x.compare? y).isSome) && sortable xs

/-- Whether the first value may stand before the second. -/
def notAbove (a b : Value) : Bool := a.compare? b != some .gt

/-- The set of the given values: each once, in ascending order if they have
one. -/
def setOf (items : List Value) : Value :=
  let once := items.foldl (fun kept x => if kept.any x.same then kept else kept ++ [x]) []
  set (if sortable once then once.mergeSort notAbove else once)

end SchoolRegistry.Value
