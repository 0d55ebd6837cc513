import SchoolRegistry.Value.Basic

/-!
# Queries

What is asked of a collection of entities: groups of conditions, which must all
hold, sort keys, of which earlier ones weigh more, and a window. Inside a group
the conditions are joined by a connective. A query is data; evaluation in
memory and the statements for a database both read it.
-/

namespace SchoolRegistry

/-- A field has a value. -/
structure Condition where
  field : String
  value : Value

/-- Conditions under a connective. -/
structure ConditionGroup where
  connective : Connective
  conditions : List Condition

/-- The field to sort by, and in which direction. -/
structure SortKey where
  field : String
  direction : Direction

/-- Conditions, an order and a window. -/
structure Query where
  groups : List ConditionGroup
  sort : List SortKey
  offset : Option Int
  limit : Option Int

namespace Query

/-- The query for everything. -/
def all : Query := ⟨[], [], none, none⟩

/-- The conditions that named values stand for: one for each that is there. -/
def conditionsOf (criteria : Fields) : List Condition :=
  (criteria.filter fun c => !c.2.isNull).map fun c => ⟨c.1, c.2⟩

/-- The query with one more group; a group without conditions adds nothing. -/
def restrict (connective : Connective) (criteria : Fields) (q : Query) : Query :=
  match conditionsOf criteria with
  | [] => q
  | conditions => { q with groups := q.groups ++ [⟨connective, conditions⟩] }

/-- The query with one more sort key, which weighs less than those before. -/
def sortedBy (field : String) (direction : Direction) (q : Query) : Query :=
  { q with sort := q.sort ++ [⟨field, direction⟩] }

/-- The query with the given window. -/
def windowed (offset limit : Option Int) (q : Query) : Query :=
  { q with offset := offset, limit := limit }

end Query

end SchoolRegistry
