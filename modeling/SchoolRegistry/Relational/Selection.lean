import SchoolRegistry.Query.Evaluate
import SchoolRegistry.Relational.Content
import SchoolRegistry.Relational.Statement

/-!
# Running statements

What a database answers to a statement: the rows that every clause accepts, in
order, cut to the window, and the number of all accepted rows. A comparison with
a missing value is unknown; since statements have no negation, unknown counts as
not accepted.
-/

namespace SchoolRegistry

/-- A row: the values of all columns of a table. -/
abbrev Row := Fields

namespace Row

/-- The value of a column. -/
def value (row : Row) (column : String) : Value := (row.lookup column).getD .null

/-- The content of a column. -/
def content (row : Row) (c : Column) : Option Content :=
  match Content.ofValue c.type (row.value c.name) with
  | .ok x => x
  | .error _ => none

end Row

/-- A comparison of a column with the content of its parameter. -/
inductive Test where
  | missing (c : Column)
  | equal (c : Column) (given : Option Content)

/-- Whether a row passes a test. -/
def Test.accepts (row : Row) : Test → Bool
  | missing c => (row.content c).isNone
  | equal c given => Content.equal c.type (row.content c) given

namespace Statement

/-! ## Conditions -/

/-- The test for a comparison. -/
def testOf : Comparison → Except BindingFault Test
  | .missing c => .ok (.missing c)
  | .flag c yes => .ok (.equal c (some (.whole (if yes then 1 else 0))))
  | .equal c v => (Content.ofValue c.type v).map (.equal c)

/-- The tests for comparisons. -/
def testsOf : List Comparison → Except BindingFault (List Test)
  | [] => .ok []
  | c :: rest =>
    match testOf c with
    | .error e => .error e
    | .ok t => (testsOf rest).map fun ts => t :: ts

/-- The tests for clauses, under their connectives. -/
def testsOfClauses : List Clause → Except BindingFault (List (Connective × List Test))
  | [] => .ok []
  | c :: rest =>
    match testsOf (c.first :: c.rest) with
    | .error e => .error e
    | .ok ts => (testsOfClauses rest).map fun more => (c.connective, ts) :: more

/-- Whether a row passes the tests of a clause. -/
def clauseAccepts (row : Row) (clause : Connective × List Test) : Bool :=
  match clause.1 with
  | .all => clause.2.all (Test.accepts row)
  | .any => clause.2.any (Test.accepts row)

/-- The rows that pass the tests of every clause. -/
def accepted (clauses : List (Connective × List Test)) (rows : List Row) : List Row :=
  rows.filter fun row => clauses.all (clauseAccepts row)

/-! ## Order -/

/-- The order of two rows by one key. -/
def compareBy (k : Column × Direction) (a b : Row) : Ordering :=
  let o := Content.compareNullsLast (a.content k.1) (b.content k.1)
  match k.2 with
  | .ascending => o
  | .descending => o.swap

/-- The order of two rows by keys, of which the first weighs most. -/
def compareByAll : List (Column × Direction) → Row → Row → Ordering
  | [], _, _ => .eq
  | k :: ks, a, b => (compareBy k a b).then (compareByAll ks a b)

/-- The identifier as the last key. -/
def lastKey : Column × Direction := (⟨"id", .varchar 36, true⟩, .ascending)

/-- The rows in the order of the statement. -/
def ordered (s : Statement) (rows : List Row) : List Row :=
  rows.mergeSort fun a b => compareByAll (s.order ++ [lastKey]) a b != .gt

/-! ## Windows -/

/-- The window of rows; a negative limit is none. -/
def cut (offset limit : Option Int) (rows : List Row) : List Row :=
  let kept := rows.drop (offset.getD 0).toNat
  match limit with
  | some n => if n < 0 then kept else kept.take n.toNat
  | none => kept

/-- A bound of the window must fit into sixty-four bits. -/
def boundFits : Option Int → Bool
  | some n => Content.fits n
  | none => true

/-! ## Running -/

/-- The page of rows that the statement selects, and how many it accepts. -/
def run (s : Statement) (rows : List Row) : Except BindingFault (Counted Row) :=
  match testsOfClauses s.clauses with
  | .error e => .error e
  | .ok clauses =>
    if boundFits s.offset && boundFits s.limit then
      let found := accepted clauses rows
      .ok ⟨cut s.offset s.limit (s.ordered found), found.length⟩
    else .error .tooLarge

end Statement

end SchoolRegistry
