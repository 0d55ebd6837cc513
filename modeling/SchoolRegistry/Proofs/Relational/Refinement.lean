import SchoolRegistry.Proofs.Query.Building
import SchoolRegistry.Proofs.Relational.Columns

/-!
# Statements refine queries

A query that names plain fields only, with values that the fields can have, means the same in
memory and as a statement on rows. The proof follows the statement: a condition becomes a test
that a row passes exactly if the condition holds (`test_of_condition`), groups become clauses
(`tests_of_groups`), sort keys become columns under which rows compare as the items do
(`order_of_keys`), and windows cut the same places (`cut_eq`).

`Query.Refined` puts these together. A statement orders rows by their identifiers in the end, so
pages are the same lists if the items ascend by identifier; without this only the values under
the sort keys are the same, place by place.

Bounds of a window are parameters of sixty-four bits. Outside of them evaluation still answers,
but the statement cannot be run (`not_refined_of_wide_offset`).
-/

namespace SchoolRegistry

open Std

/-! ## Plain queries -/

/-- Whether a value is a text, a term, yes or no, a day, or missing. -/
def Value.isPlain : Value → Bool
  | null | text _ | choice _ | flag _ | day _ => true
  | _ => false

namespace Collection

/-- The field holds texts, terms, yes or no, or days. -/
def IsPlain (c : Collection) (field : String) : Prop :=
  field ∈ c.subject.fields ∧ ∀ x : c.Item, ((Entity.toValue x).resolve field).isPlain = true

/-- The value is one that the field has in some item, or none. -/
def Takes (c : Collection) (field : String) (v : Value) : Prop :=
  v = .null ∨ ∃ x : c.Item, (Entity.toValue x).resolve field = v

/-- The items ascend by identifier. -/
def Ascending (c : Collection) (items : List c.Item) : Prop :=
  items.Pairwise fun a b => ∃ s t, Entity.id a = some s ∧ Entity.id b = some t ∧ s < t

end Collection

namespace Query

/-- The queries that restricting, sorting and paging build, with plain fields and values that
the fields take. -/
inductive Built (c : Collection) : Query → Prop
  | all : Built c all
  | findBy {q q' : Query} {criteria : Fields} {connective : Value} : Built c q →
    (∀ f ∈ criteria, c.IsPlain f.1 ∧ c.Takes f.1 f.2) →
    c.subject.findBy criteria connective q = .ok q' → Built c q'
  | sortBy {q q' : Query} {field : String} {direction : Value} : Built c q → c.IsPlain field →
    c.subject.sortBy field direction q = .ok q' → Built c q'
  | paged {q q' : Query} {offset limit : Option Int} : Built c q →
    q.paged offset limit = .ok q' → Built c q'

/-- What every built query is: its groups are not empty, conditions and keys name plain fields,
and its window has no negative bound. -/
structure IsPlain (c : Collection) (q : Query) : Prop where
  conditions : ∀ g ∈ q.groups, g.conditions ≠ [] ∧ ∀ k ∈ g.conditions, c.IsPlain k.field ∧
    k.value.isNull = false ∧ ∃ x : c.Item, (Entity.toValue x).resolve k.field = k.value
  keys : ∀ k ∈ q.sort, c.IsPlain k.field
  offset : ∃ n : Option Nat, q.offset = n.map Int.ofNat
  limit : ∃ n : Option Nat, q.limit = n.map Int.ofNat

variable {c : Collection} {q : Query}

/-- A bound that is not negative is a natural number, if there is one. -/
theorem exists_ofNat_of_nonneg {bound : Option Int} (h : ∀ n ∈ bound, 0 ≤ n) :
    ∃ n : Option Nat, bound = n.map Int.ofNat := by
  cases bound with
  | none => exact ⟨none, rfl⟩
  | some n => exact ⟨some n.toNat, congrArg some (Int.toNat_of_nonneg (h n rfl)).symm⟩

/-- The query for everything is plain. -/
theorem isPlain_all : all.IsPlain c := ⟨nofun, nofun, ⟨none, rfl⟩, ⟨none, rfl⟩⟩

/-- Restricting plain fields to values that they take leaves a query plain. -/
theorem IsPlain.restrict (h : q.IsPlain c) (connective : Connective) {criteria : Fields}
    (takes : ∀ f ∈ criteria, c.IsPlain f.1 ∧ c.Takes f.1 f.2) :
    (q.restrict connective criteria).IsPlain c := by
  unfold Query.restrict
  split
  · exact h
  · rename_i conditions some_condition
    refine ⟨fun g hg => ?_, h.keys, h.offset, h.limit⟩
    rcases List.mem_append.mp hg with before | added
    · exact h.conditions g before
    · obtain rfl := List.mem_singleton.mp added
      refine ⟨some_condition, fun k hk => ?_⟩
      obtain ⟨there, present⟩ := mem_conditionsOf hk
      obtain ⟨plain, missing | taken⟩ := takes _ there
      · rw [show k.value = .null from missing] at present
        cases present
      · exact ⟨plain, present, taken⟩

/-- A plain query stays plain when a plain field is added to its keys. -/
theorem IsPlain.sortedBy (h : q.IsPlain c) {field : String} (plain : c.IsPlain field)
    (direction : Direction) : (q.sortedBy field direction).IsPlain c := by
  refine ⟨h.conditions, fun k hk => ?_, h.offset, h.limit⟩
  rcases List.mem_append.mp hk with before | added
  · exact h.keys k before
  · obtain rfl := List.mem_singleton.mp added
    exact plain

/-- A plain query stays plain under a window. -/
theorem IsPlain.paged (h : q.IsPlain c) {q' : Query} {offset limit : Option Int}
    (paged : q.paged offset limit = .ok q') : q'.IsPlain c := by
  obtain ⟨rfl, offset, limit⟩ := paged_eq_ok paged
  exact ⟨h.conditions, h.keys, exists_ofNat_of_nonneg offset, exists_ofNat_of_nonneg limit⟩

/-- Every built query is plain. -/
theorem Built.isPlain (h : Built c q) : q.IsPlain c := by
  induction h with
  | all => exact isPlain_all
  | findBy _ takes found ih =>
    obtain ⟨-, k, rfl⟩ := Subject.findBy_eq_ok found
    exact ih.restrict k takes
  | sortBy _ plain sorted ih =>
    obtain ⟨-, d, rfl⟩ := Subject.sortBy_eq_ok sorted
    exact ih.sortedBy plain d
  | paged _ windowed ih => exact ih.paged windowed

end Query

/-! ## Fields and columns -/

namespace Collection

variable {c : Collection} {field : String}

/-- Every field of a subject has a column. -/
theorem exists_column (c : Collection) :
    ∀ field ∈ c.subject.fields, ∃ col ∈ c.table.columns, col.name = field := by
  cases c <;> decide

/-- A column that is not plain belongs to a field that is not plain. -/
theorem exists_not_isPlain (c : Collection) : ∀ col ∈ c.table.columns, col.type.isPlain = false →
    ∃ x : c.Item, (Value.along [col.name] (Entity.toValue x)).isPlain = false := by
  let stamp : Stamp := .utc ⟨⟨2024, 1, 1, by decide⟩, .midnight⟩
  let saved : c.Item := Entity.setHeader ⟨none, some stamp, some stamp, 1⟩
    (Entity.model : Model c.Item).blank
  suffices h : ∀ col ∈ c.table.columns, col.type.isPlain = false →
      (Value.along [col.name] (Entity.toValue saved)).isPlain = false from
    fun col there other => ⟨saved, h col there other⟩
  cases c <;> decide

/-- A plain field is kept in a column that fits what the field shows. -/
theorem IsPlain.column (h : c.IsPlain field) : ∃ col, c.table.column? field = some col ∧
    col ∈ c.table.columns ∧ col.name = field ∧
    ∃ (α : Type) (codec : Codec α) (get : c.Item → α), codec.Fits col.type ∧
      ∀ x, (Entity.toValue x).resolve field = codec.write (get x) := by
  obtain ⟨col, there, rfl⟩ := c.exists_column field h.1
  have names (x : c.Item) : (Entity.toValue x).resolve col.name =
      Value.along [col.name] (Entity.toValue x) := by
    rw [Value.resolve, c.pathNames_column col there]
  have plain : col.type.isPlain = true := by
    by_contra other
    obtain ⟨x, hx⟩ := c.exists_not_isPlain col there (by simpa using other)
    have := h.2 x
    rw [names, hx] at this
    cases this
  obtain ⟨α, codec, get, fits, shows⟩ := c.exists_codec col there plain
  exact ⟨col, c.column?_name col there, there, rfl, α, codec, get, fits,
    fun x => (names x).trans (shows x)⟩

/-- The content of a row in the column of a plain field is that of the item's value. -/
theorem IsPlain.content (h : c.IsPlain field) {col : Column}
    (found : c.table.column? field = some col) (x : c.Item) :
    (c.toRow x).content col = ((Entity.toValue x).resolve field).content? ∧
      ((Entity.toValue x).resolve field).Suits col.type := by
  obtain ⟨col', found', there, rfl, α, codec, get, fits, shows⟩ := h.column
  obtain rfl : col = col' := Option.some.inj (found.symm.trans found')
  have suits : ((Entity.toValue x).resolve col.name).Suits col.type := by
    rw [shows]
    exact fits.suits _
  refine ⟨?_, suits⟩
  rw [Row.content, c.toRow_value x there, suits.stored_kept.ofValue_eq]
  exact suits.content?_stored_kept

/-- A plain field takes what an item shows in it. -/
theorem IsPlain.taken {v : Value} (plain : c.IsPlain field) (x : c.Item)
    (shown : Value.along [field] (Entity.toValue x) = v) : c.IsPlain field ∧ c.Takes field v := by
  obtain ⟨col, -, there, rfl, -⟩ := plain.column
  refine ⟨plain, .inr ⟨x, ?_⟩⟩
  rw [Value.resolve, c.pathNames_column col there]
  exact shown

/-- Level values of a plain field are equal. -/
theorem IsPlain.eq_of_level (h : c.IsPlain field) {x y : c.Item}
    (level : ((Entity.toValue x).resolve field).Level ((Entity.toValue y).resolve field)) :
    (Entity.toValue x).resolve field = (Entity.toValue y).resolve field := by
  obtain ⟨col, -, -, -, α, codec, get, fits, shows⟩ := h.column
  rw [shows, shows] at level ⊢
  exact fits.level _ _ level

/-- A field in a plain column is plain. -/
theorem isPlain_of_column {col : Column} (there : col ∈ c.table.columns)
    (plain : col.type.isPlain = true) (field : col.name ∈ c.subject.fields) :
    c.IsPlain col.name := by
  obtain ⟨α, codec, get, fits, shows⟩ := c.exists_codec col there plain
  refine ⟨field, fun x => ?_⟩
  rw [Value.resolve, c.pathNames_column col there, shows]
  have suits := fits.suits (get x)
  generalize codec.write (get x) = v at suits
  generalize col.type = t at suits
  cases suits <;> rfl

/-- Whether a field is plain can be read off the table. -/
theorem isPlain_of_name (kept : (c.table.columns.any fun col => col.name == field &&
    col.type.isPlain) = true) (known : c.subject.fields.contains field = true) :
    c.IsPlain field := by
  obtain ⟨col, there, found⟩ := List.any_eq_true.mp kept
  obtain ⟨name, plain⟩ := Bool.and_eq_true_iff.mp found
  obtain rfl : col.name = field := beq_iff_eq.mp name
  exact isPlain_of_column there plain (List.contains_iff_mem.mp known)

/-- Identifiers are a plain field. -/
theorem isPlain_id (c : Collection) : c.IsPlain "id" := by
  cases c <;> exact isPlain_of_name (by decide) (by decide)

theorem column?_id (c : Collection) : c.table.column? "id" = some ⟨"id", .varchar 36, true⟩ := by
  cases c <;> decide

theorem resolve_id (x : c.Item) : (Entity.toValue x).resolve "id" = .ofText? (Entity.id x) := by
  have names : Value.pathNames "id" = ["id"] := by decide
  have shows : Value.along ["id"] (Entity.toValue x) = Codec.text?.write (Entity.id x) := by
    cases c <;> rfl
  rw [Value.resolve, names, shows]
  cases Entity.id x <;> rfl

end Collection

namespace Statement

variable {c : Collection}

theorem columnOf_eq {t : Table} {field : String} {col : Column} (h : t.column? field = some col) :
    columnOf t field = .ok col := by rw [columnOf, h]

/-! ## Conditions and tests -/

/-- A value that suits a column is compared as yes or no or as what the column holds. -/
theorem comparison_eq (col : Column) {t : ColumnType} {v : Value} (given : v.Suits t)
    (present : v.isNull = false) : (∃ yes, v = .flag yes) ∨
      (match v.stored with
        | .null => Comparison.missing col
        | .flag yes => .flag col yes
        | v => .equal col v) = .equal col v.stored := by
  cases given with
  | missing => cases present
  | flag => exact .inl ⟨_, rfl⟩
  | text | choice | day => exact .inr rfl

/-- The condition becomes a test that the rows of the items pass exactly if it holds of them. -/
def IsTested (c : Collection) (items : List c.Item) (k : Condition) : Prop :=
  ∃ comparison test, comparisonOf c.table k = .ok comparison ∧ testOf comparison = .ok test ∧
    ∀ x ∈ items, test.accepts (c.toRow x) = k.holds (Entity.toValue x)

variable {items : List c.Item}

/-- A condition on a plain field is tested whatever the items are. -/
theorem test_of_condition {k : Condition} (plain : c.IsPlain k.field)
    (present : k.value.isNull = false)
    (taken : ∃ x : c.Item, (Entity.toValue x).resolve k.field = k.value) : IsTested c items k := by
  obtain ⟨col, found, -⟩ := plain.column
  have given : k.value.Suits col.type := by
    obtain ⟨x, hx⟩ := taken
    exact hx ▸ (plain.content found x).2
  have tested : ∃ comparison, comparisonOf c.table k = .ok comparison ∧
      testOf comparison = .ok (.equal col k.value.content?) := by
    rw [comparisonOf, columnOf_eq found]
    refine ⟨_, rfl, ?_⟩
    rcases comparison_eq col given present with ⟨yes, flag⟩ | other
    · rw [flag]
      rfl
    · exact (congrArg testOf other).trans (congrArg (Except.map _) given.ofValue_stored)
  obtain ⟨comparison, compared, tested⟩ := tested
  refine ⟨comparison, _, compared, tested, fun x _ => ?_⟩
  obtain ⟨content, suits⟩ := plain.content found x
  rw [Test.accepts, content]
  exact suits.equal_content given present

/-- Conditions become tests that the rows of the items pass as the items do. -/
theorem tests_of_conditions {ks : List Condition} (tested : ∀ k ∈ ks, IsTested c items k) :
    ∃ comparisons tests, comparisonsOf c.table ks = .ok comparisons ∧
      comparisons.length = ks.length ∧ testsOf comparisons = .ok tests ∧
      ∀ x ∈ items, tests.map (Test.accepts (c.toRow x)) =
        ks.map (·.holds (Entity.toValue x)) := by
  induction ks with
  | nil => exact ⟨[], [], rfl, rfl, rfl, fun _ _ => rfl⟩
  | cons k ks ih =>
    obtain ⟨comparison, test, compared, tests_ok, same⟩ := tested k List.mem_cons_self
    obtain ⟨comparisons, tests, compareds, length, testeds, sames⟩ :=
      ih fun k hk => tested k (List.mem_cons_of_mem _ hk)
    refine ⟨comparison :: comparisons, test :: tests, ?_, by simp [length], ?_, fun x hx => ?_⟩
    · rw [comparisonsOf, compared, compareds]
      rfl
    · rw [testsOf, tests_ok, testeds]
      rfl
    · rw [List.map_cons, List.map_cons, same x hx, sames x hx]

/-- Groups become clauses that accept the rows of the items of which the groups hold. -/
theorem tests_of_groups {gs : List ConditionGroup} (tested : ∀ g ∈ gs, g.conditions ≠ [] ∧
      ∀ k ∈ g.conditions, IsTested c items k) :
    ∃ clauses tests, clausesOf c.table gs = .ok clauses ∧ testsOfClauses clauses = .ok tests ∧
      ∀ x ∈ items,
        tests.all (clauseAccepts (c.toRow x)) = gs.all (·.holds (Entity.toValue x)) := by
  induction gs with
  | nil => exact ⟨[], [], rfl, rfl, fun _ _ => rfl⟩
  | cons g gs ih =>
    obtain ⟨some_condition, here⟩ := tested g List.mem_cons_self
    obtain ⟨comparisons, tests, compared, length, tests_ok, same⟩ := tests_of_conditions here
    obtain ⟨clauses, more, clausesd, testeds, sames⟩ :=
      ih fun g hg => tested g (List.mem_cons_of_mem _ hg)
    cases comparisons with
    | nil => exact absurd (List.length_eq_zero_iff.mp length.symm) some_condition
    | cons first rest =>
      refine ⟨⟨g.connective, first, rest⟩ :: clauses, (g.connective, tests) :: more, ?_, ?_,
        fun x hx => ?_⟩
      · rw [clausesOf, compared, clausesd]
        rfl
      · rw [testsOfClauses, tests_ok, testeds]
        rfl
      · rw [List.all_cons, List.all_cons, sames x hx]
        congr 1
        unfold clauseAccepts ConditionGroup.holds
        cases g.connective with
        | all =>
          have := congrArg (List.all · id) (same x hx)
          simpa [List.all_map] using this
        | any =>
          have := congrArg (List.any · id) (same x hx)
          simpa [List.any_map] using this

/-! ## Sort keys and columns -/

/-- Values by the texts that order them. -/
def textOrder (_ : SortKey) (v w : Value) : Ordering := Ord.compare v.sortText w.sortText

instance (k : SortKey) : TransCmp (textOrder k) := transCmp_on Value.sortText

/-- Items can be compared by every plain field. -/
theorem compares_textOrder {k : SortKey} (plain : c.IsPlain k.field) (items : List c.Item) :
    Query.Compares Entity.toValue textOrder items k := by
  obtain ⟨col, found, -⟩ := plain.column
  exact fun x _ y _ => (plain.content found x).2.compare?_eq (plain.content found y).2

/-- The field of the key is kept in a column by which the rows of the items compare as the items do
by the values of the field. -/
def IsOrdered (c : Collection) (items : List c.Item)
    (cmp : SortKey → Value → Value → Ordering) (k : SortKey) : Prop :=
  ∃ col, c.table.column? k.field = some col ∧ ∀ x ∈ items, ∀ y ∈ items,
    compareBy (col, k.direction) (c.toRow x) (c.toRow y) = Query.keyOrder Entity.toValue cmp k x y

/-- Rows compare by a column as the items do by the field. -/
theorem compareBy_eq {k : SortKey} (plain : c.IsPlain k.field) {col : Column}
    (found : c.table.column? k.field = some col) (x y : c.Item) :
    compareBy (col, k.direction) (c.toRow x) (c.toRow y) =
      Query.keyOrder Entity.toValue textOrder k x y := by
  obtain ⟨content_x, suits_x⟩ := plain.content found x
  obtain ⟨content_y, suits_y⟩ := plain.content found y
  unfold compareBy Query.keyOrder
  rw [content_x, content_y, suits_x.compareNullsLast_content suits_y]
  cases k.direction <;> rfl

/-- The column of a plain field orders rows by the text of its values. -/
theorem isOrdered_of_plain {k : SortKey} (plain : c.IsPlain k.field) :
    IsOrdered c items textOrder k := by
  obtain ⟨col, found, -⟩ := plain.column
  exact ⟨col, found, fun x _ y _ => compareBy_eq plain found x y⟩

/-- Sort keys become columns under which rows compare as the items do. -/
theorem order_of_keys {cmp : SortKey → Value → Value → Ordering} {keys : List SortKey}
    (ordered : ∀ k ∈ keys, IsOrdered c items cmp k) :
    ∃ order, orderOf c.table keys = .ok order ∧ ∀ x ∈ items, ∀ y ∈ items,
      compareByAll order (c.toRow x) (c.toRow y) =
        Query.keysOrder Entity.toValue cmp keys x y := by
  induction keys with
  | nil => exact ⟨[], rfl, fun _ _ _ _ => rfl⟩
  | cons k keys ih =>
    obtain ⟨col, found, here⟩ := ordered k List.mem_cons_self
    obtain ⟨order, columns, same⟩ := ih fun k hk => ordered k (List.mem_cons_of_mem _ hk)
    refine ⟨(col, k.direction) :: order, ?_, fun x hx y hy => ?_⟩
    · rw [orderOf, columnOf_eq found, columns]
      rfl
    · rw [compareByAll, here x hx y hy, same x hx y hy]
      rfl

theorem compareByAll_append (ks : List (Column × Direction)) (k : Column × Direction) (a b : Row) :
    compareByAll (ks ++ [k]) a b = (compareByAll ks a b).then (compareBy k a b) := by
  induction ks with
  | nil =>
    show (compareBy k a b).then .eq = _
    cases compareBy k a b <;> rfl
  | cons k' ks ih =>
    rw [List.cons_append, compareByAll, compareByAll, ih]
    cases compareBy k' a b <;> rfl

/-! ## Windows -/

/-- A window of rows whose bounds are not negative. -/
theorem cut_eq (offset limit : Option Nat) (rows : List Row) :
    cut (if offset.map Int.ofNat = some 0 then none else offset.map Int.ofNat)
        (limit.map Int.ofNat) rows =
      (rows.drop (offset.getD 0)).take (limit.getD rows.length) := by
  have start : ((if offset.map Int.ofNat = some 0 then none
      else offset.map Int.ofNat).getD 0).toNat = offset.getD 0 := by
    cases offset with
    | none => rfl
    | some n => cases n <;> rfl
  unfold cut
  rw [start]
  cases limit with
  | none => exact (List.take_of_length_le (by simp)).symm
  | some n => exact if_neg (by simp)

/-! ## Running -/

/-- What a statement finds is counted, ordered and cut to the window. -/
theorem run_eq {s : Statement} {tests : List (Connective × List Test)} {rows : List Row}
    (tested : testsOfClauses s.clauses = .ok tests) (offset : boundFits s.offset = true)
    (limit : boundFits s.limit = true) :
    s.run rows = .ok ⟨cut s.offset s.limit (s.ordered (accepted tests rows)),
      (accepted tests rows).length⟩ := by
  rw [run, tested]
  exact if_pos (by rw [offset, limit]; rfl)

end Statement

/-! ## Queries and statements -/

namespace Query

open Statement

variable {c : Collection} {q : Query} {items : List c.Item}

/-- The values of an item under the sort keys. -/
def keyValues (q : Query) (x : c.Item) : List Value :=
  q.sort.map fun k => (Entity.toValue x).resolve k.field

/-- There is a statement for the query, and on the rows of the items it finds what evaluation
finds among the items: as many, in every place of the page a row of an item with the same values
under the sort keys, and the rows of the same items if the items ascend by identifier. -/
def Refined (c : Collection) (items : List c.Item) (q : Query) : Prop :=
  ∃ statement page answer selected,
    Statement.ofQuery c.table q = .ok statement ∧
    q.evaluate Entity.toValue items = .ok page ∧
    statement.run (items.map c.toRow) = .ok answer ∧
    answer.total = page.total ∧
    answer.items = selected.map c.toRow ∧
    selected.map q.keyValues = page.items.map q.keyValues ∧
    (c.Ascending items → selected = page.items)

/-- The bounds of the window need no more than sixty-four bits. -/
def Narrow (q : Query) : Prop :=
  (∀ n ∈ q.offset, n < 9223372036854775808) ∧ ∀ n ∈ q.limit, n < 9223372036854775808

/-- A bound below the greatest integer fits. -/
theorem boundFits_of_lt {bound : Option Nat}
    (narrow : ∀ n ∈ bound.map Int.ofNat, n < 9223372036854775808) :
    boundFits (bound.map Int.ofNat) = true := by
  cases bound with
  | none => rfl
  | some n =>
    have below : Int.ofNat n < 9223372036854775808 := narrow n rfl
    have least : 0 ≤ Int.ofNat n := Int.natCast_nonneg n
    simp only [Option.map_some, boundFits, Content.fits, Bool.and_eq_true, decide_eq_true_iff]
    omega

/-- Items that ascend by identifier are arranged by it. -/
theorem ascending_arranged (ascending : c.Ascending items) :
    Arranged (keyOrder Entity.toValue textOrder ⟨"id", .ascending⟩) items items := by
  refine .refl (ascending.imp fun {a b} ⟨s, t, hs, ht, lt⟩ => ?_)
  unfold keyOrder
  rw [c.resolve_id, c.resolve_id, hs, ht]
  show Ord.compare s t ≠ .gt
  have : Ord.compare s t = .lt := compareOfLessAndEq_eq_lt.mpr lt
  simp [this]

section Compiled

variable {cmp : SortKey → Value → Value → Ordering}

/-- The comparison of items by the sort keys and then by the identifier. -/
def fullOrder (c : Collection) (cmp : SortKey → Value → Value → Ordering) (keys : List SortKey) :
    c.Item → c.Item → Ordering :=
  compareLex (keysOrder Entity.toValue cmp keys)
    (keyOrder Entity.toValue textOrder ⟨"id", .ascending⟩)

instance [∀ k, TransCmp (cmp k)] (keys : List SortKey) : TransCmp (fullOrder c cmp keys) :=
  inferInstanceAs (TransCmp (compareLex _ _))

/-- The statement orders the rows of items as the items are ordered by the sort keys and then by
the identifier. -/
theorem ordered_map {s : Statement} {found : List c.Item} (compares : ∀ x ∈ found, ∀ y ∈ found,
      compareByAll s.order (c.toRow x) (c.toRow y) = keysOrder Entity.toValue cmp q.sort x y) :
    s.ordered (found.map c.toRow) =
      (found.mergeSort fun a b => fullOrder c cmp q.sort a b != .gt).map c.toRow := by
  refine (List.map_mergeSort fun a ha b hb => ?_).symm
  rw [compareByAll_append, compares a ha b hb]
  have last := compareBy_eq (k := ⟨"id", .ascending⟩) c.isPlain_id c.column?_id a b
  rw [show lastKey = (⟨"id", .varchar 36, true⟩, .ascending) from rfl, last]
  rfl

/-- The matches of a query in the order of its statement. -/
def selected (cmp : SortKey → Value → Value → Ordering) (q : Query) (items : List c.Item) :
    List c.Item :=
  (q.matching Entity.toValue items).mergeSort fun a b => fullOrder c cmp q.sort a b != .gt

/-- The selected items are the matches in the order of the statement. -/
theorem selected_arranged [∀ k, TransCmp (cmp k)] (q : Query) (items : List c.Item) :
    Arranged (fullOrder c cmp q.sort) (q.matching Entity.toValue items) (q.selected cmp items) :=
  arranged_mergeSort _

/-- By the sort keys alone the selected matches are sorted too. -/
theorem selected_sorted [∀ k, TransCmp (cmp k)] (q : Query) (items : List c.Item) :
    (q.selected cmp items).Pairwise fun a b => keysOrder Entity.toValue cmp q.sort a b ≠ .gt :=
  (selected_arranged q items).sorted.imp fun le more =>
    le (by simp [fullOrder, compareLex, more])

/-- The conditions of the query become tests and its keys become columns that order the rows of the
items as a comparison of values does. -/
structure Compiles (c : Collection) (items : List c.Item)
    (cmp : SortKey → Value → Value → Ordering) (q : Query) : Prop where
  groups : ∀ g ∈ q.groups, g.conditions ≠ [] ∧ ∀ k ∈ g.conditions, IsTested c items k
  keys : ∀ k ∈ q.sort, IsOrdered c items cmp k

/-- The statement of a query finds the rows of the window of the selected matches. -/
theorem Compiles.run_statement (compiles : q.Compiles c items cmp) (narrow : q.Narrow)
    {offset limit : Option Nat} (hoffset : q.offset = offset.map Int.ofNat)
    (hlimit : q.limit = limit.map Int.ofNat) :
    ∃ statement, Statement.ofQuery c.table q = .ok statement ∧
      statement.run (items.map c.toRow) =
        .ok ⟨(((q.selected cmp items).drop (offset.getD 0)).take
            (limit.getD (q.selected cmp items).length)).map c.toRow,
          (q.matching Entity.toValue items).length⟩ := by
  obtain ⟨clauses, tests, compiled, tested, accepts⟩ := tests_of_groups compiles.groups
  obtain ⟨order, ordered, compares⟩ := order_of_keys compiles.keys
  have matched : accepted tests (items.map c.toRow) =
      (q.matching Entity.toValue items).map c.toRow := by
    unfold accepted
    rw [List.filter_map]
    exact congrArg _ (List.filter_congr fun x hx => accepts x hx)
  have found_among : q.matching Entity.toValue items ⊆ items := List.filter_subset_self _
  -- A window from the first match on has no offset in the statement.
  have offset_fits : boundFits (if q.offset = some 0 then none else q.offset) = true := by
    split
    · rfl
    · rw [hoffset]
      exact boundFits_of_lt (hoffset ▸ narrow.1)
  have limit_fits : boundFits q.limit = true := by
    rw [hlimit]
    exact boundFits_of_lt (hlimit ▸ narrow.2)
  refine ⟨⟨c.table, clauses, order, if q.offset = some 0 then none else q.offset, q.limit⟩, ?_, ?_⟩
  · rw [Statement.ofQuery, compiled, ordered]
  · rw [run_eq tested offset_fits limit_fits, matched,
      ordered_map fun x hx y hy => compares x (found_among hx) y (found_among hy), hoffset, hlimit,
      cut_eq, List.length_map, List.length_map, List.map_take, List.map_drop]
    rfl

end Compiled

/-- Items that no key tells apart have the same values under the keys. -/
theorem keyValues_eq (plain : q.IsPlain c) {x y : c.Item} (ties : Ties Entity.toValue q.sort x y) :
    q.keyValues x = q.keyValues y :=
  List.map_congr_left fun k hk => (plain.keys k hk).eq_of_level (ties k hk)

/-- A plain query compiles to a statement. -/
theorem IsPlain.compiles (plain : q.IsPlain c) (items : List c.Item) :
    q.Compiles c items textOrder where
  groups g hg := ⟨(plain.conditions g hg).1, fun k hk =>
    have ⟨here, present, taken⟩ := (plain.conditions g hg).2 k hk
    test_of_condition here present taken⟩
  keys k hk := isOrdered_of_plain (plain.keys k hk)

/-- A plain query with a narrow window is refined by its statement. -/
theorem IsPlain.refined (plain : q.IsPlain c) (narrow : q.Narrow) (items : List c.Item) :
    Refined c items q := by
  obtain ⟨offset, hoffset⟩ := plain.offset
  obtain ⟨limit, hlimit⟩ := plain.limit
  obtain ⟨statement, compiled, answered⟩ :=
    (plain.compiles items).run_statement narrow hoffset hlimit
  have comparable : ∀ k ∈ q.sort,
      Compares Entity.toValue textOrder (q.matching Entity.toValue items) k :=
    fun k hk => compares_textOrder (plain.keys k hk) _
  obtain ⟨sorted, done, arranged⟩ := arranged_ok comparable
  have selects : Arranged (fullOrder c textOrder q.sort) (q.matching Entity.toValue items)
      (q.selected textOrder items) := selected_arranged q items
  have same_length : (q.selected textOrder items).length = sorted.length := by
    rw [selects.perm.length_eq, arranged.perm.length_eq]
  refine ⟨statement, _, _, ((q.selected textOrder items).drop (offset.getD 0)).take
      (limit.getD (q.selected textOrder items).length), compiled,
    evaluate_arranged done hoffset hlimit, answered, rfl, rfl, ?_, fun ascending => ?_⟩
  · -- Both lists stand in the order of the keys, and ties have the same values.
    have values : sorted.map q.keyValues = (q.selected textOrder items).map q.keyValues :=
      arranged.map_eq (.refl (selected_sorted q items)) selects.perm.symm fun a ha b hb tie =>
        keyValues_eq plain ((keysOrder_eq_eq comparable ha hb).mp tie)
    rw [List.map_take, List.map_take, List.map_drop, List.map_drop, values, same_length]
  · -- Matches that ascend by identifier stay so among ties, as evaluation leaves them.
    have by_both :
        Arranged (fullOrder c textOrder q.sort) (q.matching Entity.toValue items) sorted :=
      (ascending_arranged (ascending.filter _)).lex arranged
    rw [selects.unique by_both]

/-- Every query that restricting, sorting and paging build from plain fields is refined by its
statement, whatever items there are, as long as its window is narrow. -/
theorem refined_of_built (built : Built c q) (narrow : q.Narrow) (items : List c.Item) :
    Refined c items q :=
  built.isPlain.refined narrow items

/-- Persons of one name or born on one day, the youngest first, from the second one on: two are
born on the same day and of one the day is not known. -/
theorem refined_persons_of_name_or_day :
    let day : Date := ⟨2011, 2, 28, by decide⟩
    let person (id name : String) (birth : Option Date) : Person :=
      { Person.blank with id := some id, familyName := some name, birthDate := birth }
    let items := [person "p-3" "Meier" (some day), person "p-1" "Meier" none,
      person "p-2" "Abel" (some day)]
    let meierOrDay : Fields := [("familienname", .text "Meier"), ("geburtsdatum", .day day)]
    let q := ((all.restrict .any meierOrDay).sortedBy "geburtsdatum" .descending).windowed
      (some 1) (some 2)
    Built .persons q ∧ q.Narrow ∧ Refined .persons items q := by
  intro day person items meierOrDay q
  have name : Collection.persons.IsPlain "familienname" :=
    Collection.isPlain_of_name (by decide) (by decide)
  have birth : Collection.persons.IsPlain "geburtsdatum" :=
    Collection.isPlain_of_name (by decide) (by decide)
  have takes : ∀ f ∈ [("familienname", Value.text "Meier"), ("geburtsdatum", .day day)],
      Collection.persons.IsPlain f.1 ∧ Collection.persons.Takes f.1 f.2 := by
    rintro f (_ | ⟨_, _ | ⟨_, ⟨⟩⟩⟩)
    · exact name.taken (person "p-1" "Meier" none) rfl
    · exact birth.taken (person "p-2" "Abel" (some day)) rfl
  have found := @Built.findBy _ _ _ _ (.choice (.connective .any)) .all takes rfl
  have sorted := @Built.sortBy _ _ _ _ (.choice (.direction .descending)) found birth rfl
  have built : Built .persons q := @Built.paged _ _ _ (some 1) (some 2) sorted rfl
  have narrow : q.Narrow := by
    constructor <;> (rintro n ⟨⟩; decide)
  exact ⟨built, narrow, refined_of_built built narrow items⟩

/-- An offset of more than sixty-four bits leaves nothing to evaluation and cannot be given to
the statement. -/
theorem not_refined_of_wide_offset :
    Built .persons (all.windowed (some 9223372036854775808) none) ∧
      ¬Refined .persons [] (all.windowed (some 9223372036854775808) none) := by
  refine ⟨@Built.paged _ _ _ (some 9223372036854775808) none .all rfl, ?_⟩
  rintro ⟨statement, page, answer, selected, compiled, -, answered, -⟩
  cases compiled
  cases answered

end Query

end SchoolRegistry
