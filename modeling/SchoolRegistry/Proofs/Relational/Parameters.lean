import Mathlib.Algebra.BigOperators.Group.List.Basic
import SchoolRegistry.Proofs.Relational.Refinement

/-!
# Statements and their parameters

The text of a statement says what its query has in common with all queries of its shape: groups of
fields under connectives, sort keys, and which bounds the window has. The values of the conditions
and the bounds are parameters, one for each placeholder of the text, whatever characters they are
made of. `text_carries_no_data` says so of every query that is built about a collection.

Nothing, yes and no are written out and have no parameter, so that two queries of one shape may
differ in their texts there.
-/

namespace SchoolRegistry

/-! ## Queries and their shapes -/

/-- Values that a statement has as parameters: all but those that it writes out. -/
def Value.isBound : Value → Bool
  | null | flag _ => false
  | _ => true

/-- The queries that restricting, sorting and paging build about a subject. -/
inductive Subject.Builds (s : Subject) : Query → Prop
  | all : Builds s .all
  | findBy {q q' : Query} {criteria : Fields} {connective : Value} : Builds s q →
    s.findBy criteria connective q = .ok q' → Builds s q'
  | sortBy {q q' : Query} {field : String} {direction : Value} : Builds s q →
    s.sortBy field direction q = .ok q' → Builds s q'
  | paged {q q' : Query} {offset limit : Option Int} : Builds s q →
    q.paged offset limit = .ok q' → Builds s q'

namespace Query

/-- What a query asks for, without the values that it asks with. -/
structure Shape where
  /-- The fields of the conditions, group by group. -/
  groups : List (Connective × List String)
  sort : List SortKey
  /-- Whether the window begins after the first match. -/
  skips : Bool
  /-- Whether the window ends. -/
  limited : Bool

/-- The shape of a query. -/
def shape (q : Query) : Shape where
  groups := q.groups.map fun g => (g.connective, g.conditions.map (·.field))
  sort := q.sort
  skips := q.offset.any (· != 0)
  limited := q.limit.isSome

/-- The values of the conditions in their order. -/
def values (q : Query) : List Value := q.groups.flatMap fun g => g.conditions.map (·.value)

/-- The bounds of the window as parameters: the limit or what stands for none, and the offset. -/
def windowParameters (q : Query) : List Value :=
  if q.shape.skips || q.shape.limited then
    [.whole (q.limit.getD Statement.unlimited), .whole (q.offset.getD 0)] else []

/-- Every condition and every key names a field of the subject, and every group has a condition. -/
structure Names (s : Subject) (q : Query) : Prop where
  conditions : ∀ g ∈ q.groups, g.conditions ≠ [] ∧ ∀ k ∈ g.conditions, k.field ∈ s.fields
  keys : ∀ k ∈ q.sort, k.field ∈ s.fields

end Query

namespace Subject

variable {s : Subject} {q q' : Query}

/-- What is built about a subject is well built. -/
theorem Builds.wellBuilt (h : s.Builds q) : q.WellBuilt s := by
  induction h with
  | all => exact .all s
  | findBy _ found ih =>
    obtain ⟨known, connective, rfl⟩ := findBy_eq_ok found
    exact ih.restrict connective known
  | sortBy _ sorted ih =>
    obtain ⟨known, direction, rfl⟩ := sortBy_eq_ok sorted
    exact ih.sortedBy direction known
  | paged _ windowed ih =>
    obtain ⟨rfl, offset, limit⟩ := Query.paged_eq_ok windowed
    exact ih.windowed offset limit

/-- What is built about a subject names its fields only. -/
theorem Builds.names (h : s.Builds q) : q.Names s := by
  refine ⟨fun g hg => ?_, h.wellBuilt.sort⟩
  obtain ⟨some_condition, known⟩ := h.wellBuilt.groups g hg
  exact ⟨some_condition, fun k hk => (known k hk).1⟩

end Subject

/-! ## Clauses that compare with parameters -/

namespace Statement

/-- The comparison is one of the column of the condition's field with the condition's value. -/
def Compares (t : Table) (k : Condition) (c : Comparison) : Prop :=
  ∃ col ∈ t.columns, col.name = k.field ∧ c = .equal col k.value.stored

/-- The clause joins what the conditions of the group become. -/
structure Joins (t : Table) (g : ConditionGroup) (c : Clause) : Prop where
  connective : c.connective = g.connective
  comparisons : List.Forall₂ (Compares t) g.conditions (c.first :: c.rest)

/-- Every field has a column of its name. -/
theorem column_of_field {c : Collection} {field : String} (known : field ∈ c.subject.fields) :
    ∃ col ∈ c.table.columns, col.name = field ∧ columnOf c.table field = .ok col := by
  obtain ⟨col, there, rfl⟩ := c.exists_column field known
  exact ⟨col, there, rfl, columnOf_eq (c.column?_name col there)⟩

/-- A condition with a bound value becomes a comparison with a parameter. -/
theorem comparisonOf_bound {t : Table} {k : Condition} {col : Column}
    (found : columnOf t k.field = .ok col) (bound : k.value.isBound = true) :
    comparisonOf t k = .ok (.equal col k.value.stored) := by
  rw [comparisonOf, found]
  cases given : k.value <;> first | rfl | (rw [given] at bound; cases bound)

variable {c : Collection}

/-- Conditions with bound values become comparisons, one for each. -/
theorem exists_comparisons {ks : List Condition} (known : ∀ k ∈ ks, k.field ∈ c.subject.fields)
    (bound : ∀ k ∈ ks, k.value.isBound = true) :
    ∃ cs, comparisonsOf c.table ks = .ok cs ∧ List.Forall₂ (Compares c.table) ks cs := by
  induction ks with
  | nil => exact ⟨[], rfl, .nil⟩
  | cons k ks ih =>
    obtain ⟨here, later⟩ := List.forall_mem_cons.mp known
    obtain ⟨bound, bounds⟩ := List.forall_mem_cons.mp bound
    obtain ⟨col, there, name, found⟩ := column_of_field here
    obtain ⟨cs, compiled, each⟩ := ih later bounds
    refine ⟨.equal col k.value.stored :: cs, ?_, .cons ⟨col, there, name, rfl⟩ each⟩
    rw [comparisonsOf, comparisonOf_bound found bound, compiled]
    rfl

/-- Groups that are not empty become clauses, one for each. -/
theorem exists_clauses {gs : List ConditionGroup}
    (known : ∀ g ∈ gs, g.conditions ≠ [] ∧ ∀ k ∈ g.conditions, k.field ∈ c.subject.fields)
    (bound : ∀ g ∈ gs, ∀ k ∈ g.conditions, k.value.isBound = true) :
    ∃ cs, clausesOf c.table gs = .ok cs ∧ List.Forall₂ (Joins c.table) gs cs := by
  induction gs with
  | nil => exact ⟨[], rfl, .nil⟩
  | cons g gs ih =>
    obtain ⟨⟨some_condition, here⟩, later⟩ := List.forall_mem_cons.mp known
    obtain ⟨bound, bounds⟩ := List.forall_mem_cons.mp bound
    obtain ⟨comparisons, compared, each⟩ := exists_comparisons here bound
    obtain ⟨cs, compiled, joined⟩ := ih later bounds
    cases comparisons with
    | nil => exact absurd (List.forall₂_nil_right_iff.mp each) some_condition
    | cons first rest =>
      refine ⟨⟨g.connective, first, rest⟩ :: cs, ?_, .cons ⟨rfl, each⟩ joined⟩
      rw [clausesOf, compared, compiled]
      rfl

/-- Sort keys become columns of the table. -/
theorem exists_order {keys : List SortKey} (known : ∀ k ∈ keys, k.field ∈ c.subject.fields) :
    ∃ order, orderOf c.table keys = .ok order ∧ ∀ k ∈ order, k.1 ∈ c.table.columns := by
  induction keys with
  | nil => exact ⟨[], rfl, fun _ h => absurd h List.not_mem_nil⟩
  | cons k keys ih =>
    obtain ⟨here, later⟩ := List.forall_mem_cons.mp known
    obtain ⟨col, there, -, found⟩ := column_of_field here
    obtain ⟨order, ordered, columns⟩ := ih later
    refine ⟨(col, k.direction) :: order, ?_, List.forall_mem_cons.mpr ⟨there, columns⟩⟩
    rw [orderOf, found, ordered]
    rfl

/-! ## Texts -/

/-- What relates the members of two lists one by one relates the lists of what they show. -/
theorem map_eq_of_forall₂ {α β γ : Type} {R : α → β → Prop} {f : α → γ} {g : β → γ}
    (each : ∀ a b, R a b → g b = f a) {as : List α} {bs : List β} (related : List.Forall₂ R as bs) :
    bs.map g = as.map f := by
  induction related with
  | nil => rfl
  | cons first _ ih => rw [List.map_cons, List.map_cons, each _ _ first, ih]

/-- A field and the placeholder for the value that it is compared with. -/
def parameterText (t : Table) (field : String) : String := t.name ++ "." ++ field ++ " = ?"

/-- How a clause is written: its text, and whether parentheses are put around it. -/
def written (s : Statement) (c : Clause) : String × Bool := (s.clauseText c, isAlternative c)

/-- How fields under a connective are written. -/
def writtenFields (t : Table) (g : Connective × List String) : String × Bool :=
  ((connectiveText g.1).intercalate (g.2.map (parameterText t)),
    match g.1 with
    | .all => false
    | .any => 1 < g.2.length)

/-- The condition of a statement whose clauses are written in the given way. -/
def whereOf : List (String × Bool) → String
  | [] => ""
  | [w] => " \nWHERE " ++ w.1
  | ws => " \nWHERE " ++ " AND ".intercalate
      (ws.map fun w => if w.2 then "(" ++ w.1 ++ ")" else w.1)

/-- The condition of a statement is put together from its clauses as they are written. -/
theorem whereText_eq (s : Statement) : s.whereText = whereOf (s.clauses.map s.written) := by
  unfold whereText
  rcases s.clauses with _ | ⟨first, _ | ⟨second, rest⟩⟩
  · rfl
  · rfl
  · show _ = " \nWHERE " ++ " AND ".intercalate (((first :: second :: rest).map s.written).map _)
    rw [List.map_map]
    rfl

/-- How a clause is written follows from the fields and the connective. -/
theorem written_of_joins {s : Statement} {g : ConditionGroup} {c : Clause}
    (h : Joins s.table g c) :
    s.written c = writtenFields s.table (g.connective, g.conditions.map (·.field)) := by
  have texts : (c.first :: c.rest).map s.comparisonText =
      (g.conditions.map (·.field)).map (parameterText s.table) := by
    rw [List.map_map]
    refine map_eq_of_forall₂ ?_ h.comparisons
    rintro k comparison ⟨col, -, name, rfl⟩
    show _ = parameterText s.table k.field
    rw [← name]
    rfl
  have length : g.conditions.length = c.rest.length + 1 := h.comparisons.length_eq
  unfold written writtenFields clauseText isAlternative
  rw [texts, h.connective, List.length_map, length]
  cases g.connective with
  | all => rfl
  | any => cases c.rest <;> simp

/-! ## Placeholders -/

/-- The number of placeholders in a text. -/
def placeholders (text : String) : Nat := text.toList.count '?'

theorem placeholders_append (a b : String) :
    placeholders (a ++ b) = placeholders a + placeholders b := by simp [placeholders]

/-- A separator without placeholders adds none. -/
theorem placeholders_intercalate {separator : String} (free : placeholders separator = 0)
    (texts : List String) :
    placeholders (separator.intercalate texts) = (texts.map placeholders).sum := by
  unfold placeholders at free ⊢
  rw [String.toList_intercalate]
  induction texts with
  | nil => rfl
  | cons first rest ih =>
    cases rest with
    | nil => simp
    | cons second rest =>
      rw [List.map_cons, List.map_cons, List.intercalate_cons_cons, List.count_append,
        List.count_append, free, ← List.map_cons, ih]
      rfl

theorem placeholders_enumeration {texts : List String} (free : ∀ t ∈ texts, placeholders t = 0) :
    placeholders (", ".intercalate texts) = 0 := by
  rw [placeholders_intercalate (by decide)]
  exact List.sum_eq_zero (List.forall_mem_map.mpr free)

/-- A condition has the placeholders of its clauses. -/
theorem placeholders_whereOf (ws : List (String × Bool)) :
    placeholders (whereOf ws) = (ws.map fun w => placeholders w.1).sum := by
  have enclosed (w : String × Bool) :
      placeholders (if w.2 then "(" ++ w.1 ++ ")" else w.1) = placeholders w.1 := by
    split
    · rw [placeholders_append, placeholders_append, show placeholders "(" = 0 by decide,
        show placeholders ")" = 0 by decide, Nat.zero_add, Nat.add_zero]
    · rfl
  rcases ws with _ | ⟨first, _ | ⟨second, rest⟩⟩
  · rfl
  · rw [whereOf, placeholders_append, show placeholders " \nWHERE " = 0 by decide]
    simp
  · show placeholders (" \nWHERE " ++ " AND ".intercalate ((first :: second :: rest).map _)) = _
    rw [placeholders_append, show placeholders " \nWHERE " = 0 by decide, Nat.zero_add,
      placeholders_intercalate (by decide), List.map_map]
    exact congrArg List.sum (List.map_congr_left fun w _ => enclosed w)

/-- No table and no column has a placeholder in its name. -/
theorem placeholders_names (c : Collection) :
    placeholders c.table.name = 0 ∧ ∀ col ∈ c.table.columns, placeholders col.name = 0 := by
  cases c <;> decide

/-- Names of columns have no placeholder. -/
theorem placeholders_fullName {s : Statement} (table : s.table = c.table) {col : Column}
    (there : col ∈ c.table.columns) : placeholders (s.fullName col) = 0 := by
  obtain ⟨free, names⟩ := placeholders_names c
  rw [fullName, placeholders_append, placeholders_append, table, free, names col there,
    show placeholders "." = 0 by decide]

/-- A clause has a placeholder for each condition of its group. -/
theorem placeholders_clauseText {s : Statement} (table : s.table = c.table) {g : ConditionGroup}
    {clause : Clause} (joins : Joins c.table g clause) :
    placeholders (s.clauseText clause) = g.conditions.length := by
  have each : (clause.first :: clause.rest).map (fun x => placeholders (s.comparisonText x)) =
      g.conditions.map fun _ => 1 := by
    refine map_eq_of_forall₂ ?_ joins.comparisons
    rintro k comparison ⟨col, there, -, rfl⟩
    rw [comparisonText, placeholders_append, placeholders_fullName table there]
    decide
  have separator : placeholders (connectiveText clause.connective) = 0 := by
    cases clause.connective <;> decide
  rw [clauseText, placeholders_intercalate separator, List.map_map]
  refine (congrArg List.sum each).trans ?_
  simp

/-! ## Parameters -/

/-- The parameters of comparisons are the values of the conditions, in their order. -/
theorem parameters_of_compares {t : Table} {ks : List Condition} {cs : List Comparison}
    (compares : List.Forall₂ (Compares t) ks cs) :
    cs.filterMap parameter? = ks.map (·.value.stored) := by
  induction compares with
  | nil => rfl
  | cons first _ ih =>
    obtain ⟨col, -, -, rfl⟩ := first
    exact congrArg (_ :: ·) ih

/-- The parameters of clauses are the values of the groups, in their order. -/
theorem parameters_of_joins {t : Table} {gs : List ConditionGroup} {cs : List Clause}
    (joins : List.Forall₂ (Joins t) gs cs) :
    (cs.flatMap fun c => c.first :: c.rest).filterMap parameter? =
      (gs.flatMap fun g => g.conditions.map (·.value)).map Value.stored := by
  induction joins with
  | nil => rfl
  | cons first _ ih =>
    rw [List.flatMap_cons, List.filterMap_append, parameters_of_compares first.comparisons, ih,
      List.flatMap_cons, List.map_append, List.map_map]
    rfl

/-! ## Statements of queries -/

/-- The statement is the one of the query, and has a parameter in each comparison. -/
structure Renders (c : Collection) (q : Query) (s : Statement) : Prop where
  table : s.table = c.table
  clauses : List.Forall₂ (Joins c.table) q.groups s.clauses
  order : orderOf c.table q.sort = .ok s.order
  columns : ∀ k ∈ s.order, k.1 ∈ c.table.columns
  offset : s.offset = if q.offset = some 0 then none else q.offset
  limit : s.limit = q.limit

/-- A query about fields, with bound values, has a statement. -/
theorem exists_renders {q : Query} (names : q.Names c.subject)
    (bound : ∀ v ∈ q.values, v.isBound = true) :
    ∃ s, ofQuery c.table q = .ok s ∧ Renders c q s := by
  have bounds : ∀ g ∈ q.groups, ∀ k ∈ g.conditions, k.value.isBound = true := by
    intro g hg k hk
    exact bound _ (List.mem_flatMap.mpr ⟨g, hg, List.mem_map_of_mem hk⟩)
  obtain ⟨clauses, compiled, joins⟩ := exists_clauses names.conditions bounds
  obtain ⟨order, ordered, columns⟩ := exists_order names.keys
  let offset := if q.offset = some 0 then none else q.offset
  refine ⟨⟨c.table, clauses, order, offset, q.limit⟩, ?_,
    ⟨rfl, joins, ordered, columns, rfl, rfl⟩⟩
  rw [ofQuery, compiled, ordered]

namespace Renders

variable {q q' : Query} {s s' : Statement}

/-- Whether there is a window follows from the shape. -/
theorem isWindowed_eq (h : Renders c q s) : s.isWindowed = (q.shape.skips || q.shape.limited) := by
  have skips : s.offset.isSome = q.shape.skips := by
    rw [h.offset]
    show _ = q.offset.any (· != 0)
    cases q.offset with
    | none => rfl
    | some n => by_cases zero : n = 0 <;> simp [zero]
  rw [isWindowed, skips, h.limit]
  rfl

/-- The text of the condition follows from the shape. -/
theorem whereText_eq (h : Renders c q s) :
    s.whereText = whereOf (q.shape.groups.map (writtenFields c.table)) := by
  have each : s.clauses.map s.written =
      q.groups.map fun g => writtenFields c.table (g.connective, g.conditions.map (·.field)) := by
    refine map_eq_of_forall₂ (fun g clause joins => ?_) h.clauses
    rw [← h.table] at joins ⊢
    exact written_of_joins joins
  rw [Statement.whereText_eq, each, Query.shape, List.map_map]
  rfl

/-- The texts depend on the shape of the query only. -/
theorem texts_eq (h : Renders c q s) (h' : Renders c q' s') (same : q.shape = q'.shape) :
    s.itemsText = s'.itemsText ∧ s.countText = s'.countText := by
  have condition : s.whereText = s'.whereText := by rw [h.whereText_eq, h'.whereText_eq, same]
  have window : s.isWindowed = s'.isWindowed := by rw [h.isWindowed_eq, h'.isWindowed_eq, same]
  have sort : q.sort = q'.sort := congrArg Query.Shape.sort same
  have order : s.order = s'.order := by
    have ordered := h.order
    rw [sort, h'.order] at ordered
    exact (Except.ok.inj ordered).symm
  have table : s.table = s'.table := h.table.trans h'.table.symm
  have names : s.fullName = s'.fullName := by unfold fullName; rw [table]
  have keys : s.orderText = s'.orderText := by unfold orderText; rw [names]
  constructor
  · unfold itemsText
    rw [condition, window, order, table, names, keys]
  · unfold countText
    rw [condition, table]

/-- The parameters are the values of the query. -/
theorem parameters_eq (h : Renders c q s) : s.parameters = q.values.map Value.stored :=
  parameters_of_joins h.clauses

/-- The bounds of the window are parameters after the values. -/
theorem itemsParameters_eq (h : Renders c q s) :
    s.itemsParameters = q.values.map Value.stored ++ q.windowParameters := by
  have offset : s.offset.getD 0 = q.offset.getD 0 := by
    rw [h.offset]
    split
    · next zero => rw [zero]; rfl
    · rfl
  rw [itemsParameters, h.parameters_eq, h.isWindowed_eq, h.limit, offset]
  rfl

/-- The condition has a placeholder for each value. -/
theorem placeholders_whereText (h : Renders c q s) :
    placeholders s.whereText = q.values.length := by
  have each : s.clauses.map (fun clause => placeholders (s.clauseText clause)) =
      q.groups.map fun g => g.conditions.length :=
    map_eq_of_forall₂ (fun _ _ joins => placeholders_clauseText h.table joins) h.clauses
  rw [Statement.whereText_eq, placeholders_whereOf, List.map_map]
  refine (congrArg List.sum each).trans ?_
  rw [Query.values, List.length_flatMap]
  simp

/-- Counting has one placeholder for each parameter. -/
theorem placeholders_countText (h : Renders c q s) :
    placeholders s.countText = s.parameters.length := by
  have start : placeholders "SELECT count(*) AS count_1 \nFROM " = 0 := by decide
  unfold countText
  rw [placeholders_append, placeholders_append, h.placeholders_whereText, h.table,
    (placeholders_names c).1, h.parameters_eq, List.length_map, start]
  omega

theorem placeholders_orderText (h : Renders c q s) :
    ∀ key ∈ s.order, placeholders (s.orderText key) = 0 := by
  have words : placeholders " ASC NULLS LAST" = 0 ∧ placeholders " DESC NULLS FIRST" = 0 := by
    decide
  rintro ⟨col, direction⟩ hkey
  rw [orderText, placeholders_append, placeholders_fullName h.table (h.columns _ hkey),
    Nat.zero_add]
  cases direction with
  | ascending => exact words.1
  | descending => exact words.2

/-- Listing has one placeholder for each parameter. -/
theorem placeholders_itemsText (h : Renders c q s) :
    placeholders s.itemsText = s.itemsParameters.length := by
  have name : placeholders s.table.name = 0 := h.table ▸ (placeholders_names c).1
  have selected : placeholders (", ".intercalate (s.table.columns.map s.fullName)) = 0 := by
    refine placeholders_enumeration (List.forall_mem_map.mpr fun col there => ?_)
    exact placeholders_fullName h.table (h.table ▸ there)
  have last : placeholders (s.table.name ++ ".id ASC") = 0 := by
    rw [placeholders_append, name]
    decide
  have order : placeholders
      (", ".intercalate (s.order.map s.orderText ++ [s.table.name ++ ".id ASC"])) = 0 := by
    refine placeholders_enumeration fun t ht => ?_
    rcases List.mem_append.mp ht with ht | ht
    · obtain ⟨key, hkey, rfl⟩ := List.mem_map.mp ht
      exact h.placeholders_orderText key hkey
    · exact List.mem_singleton.mp ht ▸ last
  have window : placeholders (if s.isWindowed then "\n LIMIT ? OFFSET ?" else "") =
      q.windowParameters.length := by
    rw [h.isWindowed_eq, Query.windowParameters]
    split <;> rfl
  have words : placeholders "SELECT " = 0 ∧ placeholders " \nFROM " = 0 ∧
      placeholders " ORDER BY " = 0 := by decide
  unfold itemsText
  simp only [placeholders_append, selected, name, order, window, words, h.placeholders_whereText,
    h.itemsParameters_eq, List.length_append, List.length_map]
  omega

end Renders

/-- The parameters of both texts are the values of the query as columns hold them, in their order,
before the window of the rows; and each has its placeholder. -/
structure Binds (s : Statement) (q : Query) : Prop where
  parameters : s.parameters = q.values.map Value.stored
  itemsParameters : s.itemsParameters = q.values.map Value.stored ++ q.windowParameters
  countPlaceholders : placeholders s.countText = s.parameters.length
  itemsPlaceholders : placeholders s.itemsText = s.itemsParameters.length

/-- The statement of a query binds its values. -/
theorem Renders.binds {q : Query} {s : Statement} (h : Renders c q s) : s.Binds q :=
  ⟨h.parameters_eq, h.itemsParameters_eq, h.placeholders_countText, h.placeholders_itemsText⟩

end Statement

/-- The texts of a statement carry no data: queries of one shape about one collection, whatever
values they have in their conditions, have statements with the same texts, and the values are in
the parameters, one for each placeholder. -/
theorem text_carries_no_data {c : Collection} {q q' : Query} (built : c.subject.Builds q)
    (built' : c.subject.Builds q') (bound : ∀ v ∈ q.values, v.isBound = true)
    (bound' : ∀ v ∈ q'.values, v.isBound = true) (same : q.shape = q'.shape) :
    ∃ s s', Statement.ofQuery c.table q = .ok s ∧ Statement.ofQuery c.table q' = .ok s' ∧
      s.itemsText = s'.itemsText ∧ s.countText = s'.countText ∧ s.Binds q ∧ s'.Binds q' := by
  obtain ⟨s, compiled, renders⟩ := Statement.exists_renders built.names bound
  obtain ⟨s', compiled', renders'⟩ := Statement.exists_renders built'.names bound'
  obtain ⟨items, count⟩ := renders.texts_eq renders' same
  exact ⟨s, s', compiled, compiled', items, count, renders.binds, renders'.binds⟩

/-- Roles of a kind that have a name or certain marks, from the second one on. -/
def rolesLike (name : String) (marks : List RoleMark) (kind : RoleKind) : Query :=
  let either : Fields := [("name", .text name),
    ("merkmale", .list (marks.map fun mark => .choice (.roleMark mark)))]
  let both := (Query.all.restrict .any either).restrict .all
    [("rollenart", .choice (.roleKind kind))]
  (both.sortedBy "name" .descending).windowed (some 1) none

theorem builds_rolesLike (name : String) (marks : List RoleMark) (kind : RoleKind) :
    Subject.roles.Builds (rolesLike name marks kind) := by
  have either := @Subject.Builds.findBy _ _ _
    [("name", .text name), ("merkmale", .list (marks.map fun mark => .choice (.roleMark mark)))]
    (.choice (.connective .any)) (.all (s := .roles)) rfl
  have both := @Subject.Builds.findBy _ _ _ [("rollenart", .choice (.roleKind kind))]
    (.choice (.connective .all)) either rfl
  have sorted := @Subject.Builds.sortBy _ _ _ "name" (.choice (.direction .descending)) both rfl
  exact @Subject.Builds.paged _ _ _ (some 1) none sorted rfl

theorem text_carries_no_data_rolesLike :
    let q := rolesLike "x' OR '1'='1" [.limitedTerm] .head
    let q' := rolesLike "?; --" [] .learner
    ∃ s s', Statement.ofQuery .roles q = .ok s ∧ Statement.ofQuery .roles q' = .ok s' ∧
      s'.countText = "SELECT count(*) AS count_1 \nFROM rolle \n" ++
        "WHERE (rolle.name = ? OR rolle.merkmale = ?) AND rolle.rollenart = ?" ∧
      s.itemsText = s'.itemsText ∧ s.countText = s'.countText ∧ s.Binds q ∧ s'.Binds q' := by
  intro q q'
  have bound : ∀ v ∈ q.values, v.isBound = true := by decide
  have bound' : ∀ v ∈ q'.values, v.isBound = true := by decide
  obtain ⟨s, s', compiled, compiled', same⟩ := text_carries_no_data (c := .roles)
    (builds_rolesLike _ _ _) (builds_rolesLike _ _ _) bound bound' rfl
  refine ⟨s, s', compiled, compiled', ?_, same⟩
  cases compiled'
  decide

end SchoolRegistry
