import SchoolRegistry.Query.Basic
import SchoolRegistry.Value.Printed

/-!
# The printed form of queries

Messages show a query with all its parts, each in its unambiguous form.
-/

namespace SchoolRegistry

/-- The printed form of a condition. -/
def Condition.printed (c : Condition) : String :=
  "FilterPredicate(field=" ++ Text.quoted c.field ++ ", value=" ++ c.value.printed ++ ")"

/-- The printed form of members as a sequence of fixed length. -/
def printedSequence : List String → String
  | [one] => "(" ++ one ++ ",)"
  | many => "(" ++ ", ".intercalate many ++ ")"

/-- The printed form of a group. -/
def ConditionGroup.printed (g : ConditionGroup) : String :=
  "FilterGroup(operator=" ++ Value.printedChoice (.connective g.connective) ++ ", predicates="
    ++ printedSequence (g.conditions.map Condition.printed) ++ ")"

/-- The printed form of a sort key. -/
def SortKey.printed (k : SortKey) : String :=
  "SortKey(field=" ++ Text.quoted k.field ++ ", order="
    ++ Value.printedChoice (.direction k.direction) ++ ")"

/-- The printed form of a bound. -/
def printedBound : Option Int → String
  | some n => toString n
  | none => "None"

/-- The printed form of a query of a subject with the given label. -/
def Query.printed (label : String) (q : Query) : String :=
  label ++ "(filters=[" ++ ", ".intercalate (q.groups.map ConditionGroup.printed)
    ++ "], sort=[" ++ ", ".intercalate (q.sort.map SortKey.printed)
    ++ "], offset=" ++ printedBound q.offset ++ ", limit=" ++ printedBound q.limit ++ ")"

end SchoolRegistry
