import SchoolRegistry.Failure
import SchoolRegistry.Query.Basic
import SchoolRegistry.Relational.Stored
import SchoolRegistry.Relational.Table

/-!
# Statements

A query against a table: comparisons of columns in clauses that must all hold,
an order that ends with the identifier, and a window. A statement is written as
SQL in two forms, one for the rows and one for their number; values go into
parameters, except that nothing, yes and no are written out.
-/

namespace SchoolRegistry

/-- A comparison of a column. -/
inductive Comparison where
  /-- The column has no value. -/
  | missing (c : Column)
  /-- The column is yes or no. -/
  | flag (c : Column) (yes : Bool)
  /-- The column equals a parameter. -/
  | equal (c : Column) (v : Value)

/-- Comparisons under a connective, at least one. -/
structure Clause where
  connective : Connective
  first : Comparison
  rest : List Comparison

/-- A query against a table. -/
structure Statement where
  table : Table
  clauses : List Clause
  /-- The columns to sort by, before the identifier. -/
  order : List (Column × Direction)
  offset : Option Int
  limit : Option Int

namespace Statement

/-! ## From queries -/

/-- The column that a field of a query means. -/
def columnOf (t : Table) (field : String) : Except Failure Column :=
  match t.column? field with
  | some c => .ok c
  | none => .error (.storage (.noColumn field t.rowName))

/-- The comparison for a condition. -/
def comparisonOf (t : Table) (c : Condition) : Except Failure Comparison :=
  match columnOf t c.field with
  | .error e => .error e
  | .ok column =>
    .ok (match c.value.stored with
      | .null => .missing column
      | .flag yes => .flag column yes
      | v => .equal column v)

/-- The comparisons for conditions. -/
def comparisonsOf (t : Table) : List Condition → Except Failure (List Comparison)
  | [] => .ok []
  | c :: rest =>
    match comparisonOf t c with
    | .error e => .error e
    | .ok first => (comparisonsOf t rest).map fun rest => first :: rest

/-- The clauses for groups; a group without conditions gives none. -/
def clausesOf (t : Table) : List ConditionGroup → Except Failure (List Clause)
  | [] => .ok []
  | g :: rest =>
    match comparisonsOf t g.conditions with
    | .error e => .error e
    | .ok [] => clausesOf t rest
    | .ok (first :: more) =>
      (clausesOf t rest).map fun rest => ⟨g.connective, first, more⟩ :: rest

/-- The columns for sort keys. -/
def orderOf (t : Table) : List SortKey → Except Failure (List (Column × Direction))
  | [] => .ok []
  | k :: rest =>
    match columnOf t k.field with
    | .error e => .error e
    | .ok column => (orderOf t rest).map fun rest => (column, k.direction) :: rest

/-- The statement for a query. An offset of zero is none. -/
def ofQuery (t : Table) (q : Query) : Except Failure Statement :=
  match clausesOf t q.groups, orderOf t q.sort with
  | .ok clauses, .ok order =>
    .ok ⟨t, clauses, order, if q.offset = some 0 then none else q.offset, q.limit⟩
  | .error e, _ => .error e
  | .ok _, .error e => .error e

/-! ## SQL -/

/-- The name of a column with its table. -/
def fullName (s : Statement) (c : Column) : String := s.table.name ++ "." ++ c.name

/-- A comparison in SQL. -/
def comparisonText (s : Statement) : Comparison → String
  | .missing c => s.fullName c ++ " IS NULL"
  | .flag c yes => s.fullName c ++ " = " ++ (if yes then "1" else "0")
  | .equal c _ => s.fullName c ++ " = ?"

/-- A connective in SQL. -/
def connectiveText : Connective → String
  | .all => " AND "
  | .any => " OR "

/-- A clause in SQL. -/
def clauseText (s : Statement) (c : Clause) : String :=
  (connectiveText c.connective).intercalate ((c.first :: c.rest).map s.comparisonText)

/-- Whether a clause among others is put into parentheses. -/
def isAlternative (c : Clause) : Bool :=
  match c.connective with
  | .all => false
  | .any => !c.rest.isEmpty

/-- The condition of the statement in SQL, if it has one. -/
def whereText (s : Statement) : String :=
  match s.clauses with
  | [] => ""
  | [c] => " \nWHERE " ++ s.clauseText c
  | cs =>
    let enclosed (c : Clause) : String :=
      if isAlternative c then "(" ++ s.clauseText c ++ ")" else s.clauseText c
    " \nWHERE " ++ " AND ".intercalate (cs.map enclosed)

/-- A sort key in SQL. -/
def orderText (s : Statement) (k : Column × Direction) : String :=
  s.fullName k.1 ++ (match k.2 with
    | .ascending => " ASC NULLS LAST"
    | .descending => " DESC NULLS FIRST")

/-- Whether the statement has a window. -/
def isWindowed (s : Statement) : Bool := s.offset.isSome || s.limit.isSome

/-- The statement for the rows. -/
def itemsText (s : Statement) : String :=
  "SELECT " ++ ", ".intercalate (s.table.columns.map s.fullName) ++ " \nFROM " ++ s.table.name
    ++ s.whereText ++ " ORDER BY "
    ++ ", ".intercalate (s.order.map s.orderText ++ [s.table.name ++ ".id ASC"])
    ++ (if s.isWindowed then "\n LIMIT ? OFFSET ?" else "")

/-- The statement for the number of rows. -/
def countText (s : Statement) : String :=
  "SELECT count(*) AS count_1 \nFROM " ++ s.table.name ++ s.whereText

/-- The parameter of a comparison, if it has one. -/
def parameter? : Comparison → Option Value
  | .equal _ v => some v
  | _ => none

/-- The parameters of the condition. -/
def parameters (s : Statement) : List Value :=
  (s.clauses.flatMap fun c => c.first :: c.rest).filterMap parameter?

/-- The limit that stands for none. -/
def unlimited : Int := -1

/-- The parameters of the statement for the rows. -/
def itemsParameters (s : Statement) : List Value :=
  s.parameters ++ (if s.isWindowed then
    [.whole (s.limit.getD unlimited), .whole (s.offset.getD 0)] else [])

end Statement

end SchoolRegistry
