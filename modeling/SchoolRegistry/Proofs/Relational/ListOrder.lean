import Mathlib.Data.List.Pairwise
import SchoolRegistry.Proofs.Relational.StoredFields

/-!
# Sorting by lists in memory and in the database

Queries sort stored items by any of their fields, also by fields that are lists of terms. In memory
a list precedes the longer lists that it begins; the database sorts by the texts of lists and puts
it behind them. Nothing else sets the two orders apart, so the statement of a query shows the same
values under the sort keys as evaluation, whatever the window, exactly if no two matches part ways:
the first key that tells them apart shows lists of which one begins the other
(`Query.showsAlike_windows_iff`).

The proof is about lists in two orders. If the orders tell the same members apart, the lists show
the same in every place exactly if no two members are ordered the other way round
(`Arranged.map_eq_iff_not_opposed`).

Conditions demand values that stored items can show, so nothing is said about other values. Only
the values under the sort keys are compared; full ties can stand in different places.
-/

namespace SchoolRegistry

open Std

/-! ## Lists in two orders -/

section TwoOrders

variable {α β : Type} {cmp cmp' : α → α → Ordering} {xs ys zs : List α} {f : α → β}

/-- In a sorted list that shows what the comparison tells apart, nothing that shows the same as the
greater of two members stands before one that shows the same as the smaller one. -/
theorem pairwise_map_of_lt [TransCmp cmp] (sorted : ys.Pairwise fun a b => cmp a b ≠ .gt)
    (shown : ∀ a ∈ ys, ∀ b ∈ ys, cmp a b = .eq ↔ f a = f b) {a b : α} (ha : a ∈ ys) (hb : b ∈ ys)
    (lt : cmp a b = .lt) : (ys.map f).Pairwise fun p q => ¬(p = f b ∧ q = f a) := by
  refine List.pairwise_map.mpr (sorted.imp_of_mem fun {u v} hu hv le => ?_)
  rintro ⟨as_b, as_a⟩
  have level_b : cmp u b = .eq := (shown u hu b hb).mpr as_b
  have level_a : cmp v a = .eq := (shown v hv a ha).mpr as_a
  have swap : cmp b a = (cmp a b).swap := OrientedCmp.eq_swap
  apply le
  rw [TransCmp.congr_left level_b, TransCmp.congr_right level_a, swap, lt]
  rfl

/-- If two comparisons tell apart what differs in what it shows, lists sorted by them show the same
in every place exactly if the comparisons oppose each other nowhere. -/
theorem Arranged.map_eq_iff_not_opposed [TransCmp cmp] [TransCmp cmp'] (h : Arranged cmp xs ys)
    (perm : zs.Perm xs) (sorted : zs.Pairwise fun a b => cmp' a b ≠ .gt)
    (shown : ∀ a ∈ xs, ∀ b ∈ xs, cmp a b = .eq ↔ f a = f b)
    (level : ∀ a ∈ xs, ∀ b ∈ xs, cmp' a b = .eq ↔ cmp a b = .eq) :
    ys.map f = zs.map f ↔ ∀ a ∈ xs, ∀ b ∈ xs, ¬Opposed (cmp a b) (cmp' a b) := by
  have from_ys {a : α} : a ∈ ys → a ∈ xs := h.perm.mem_iff.mp
  have from_zs {a : α} : a ∈ zs → a ∈ xs := perm.mem_iff.mp
  constructor
  · -- The pair would have to stand both ways round in the list of what is shown.
    intro same
    have apart : ∀ a ∈ xs, ∀ b ∈ xs, cmp a b = .lt → cmp' b a ≠ .lt := by
      intro a ha b hb lt lt'
      have before : (ys.map f).Pairwise fun p q => ¬(p = f b ∧ q = f a) :=
        pairwise_map_of_lt h.sorted (fun u hu v hv => shown u (from_ys hu) v (from_ys hv))
          (h.perm.mem_iff.mpr ha) (h.perm.mem_iff.mpr hb) lt
      have behind : (zs.map f).Pairwise fun p q => ¬(p = f a ∧ q = f b) :=
        pairwise_map_of_lt sorted
          (fun u hu v hv => (level u (from_zs hu) v (from_zs hv)).trans
            (shown u (from_zs hu) v (from_zs hv)))
          (perm.mem_iff.mpr hb) (perm.mem_iff.mpr ha) lt'
      have differ : f a ≠ f b := by
        rw [ne_eq, ← shown a ha b hb, lt]
        exact nofun
      have symmetric : Symm fun p q : β => ¬(p = f b ∧ q = f a) ∧ ¬(p = f a ∧ q = f b) :=
        ⟨fun p q ⟨no, no'⟩ => ⟨fun ⟨hq, hp⟩ => no' ⟨hp, hq⟩, fun ⟨hq, hp⟩ => no ⟨hp, hq⟩⟩⟩
      have never := (before.and (same ▸ behind)).forall_of_forall (fun p _ =>
        ⟨fun ⟨hb, ha⟩ => differ (ha.symm.trans hb), fun ⟨ha, hb⟩ => differ (ha.symm.trans hb)⟩)
      have a_there : f a ∈ ys.map f := List.mem_map_of_mem (h.perm.mem_iff.mpr ha)
      have b_there : f b ∈ ys.map f := List.mem_map_of_mem (h.perm.mem_iff.mpr hb)
      exact (never a_there b_there).2 ⟨rfl, rfl⟩
    intro a ha b hb ⟨decided, swapped⟩
    have swap : cmp b a = (cmp a b).swap := OrientedCmp.eq_swap
    have swap' : cmp' b a = (cmp' a b).swap := OrientedCmp.eq_swap
    rw [swapped, Ordering.swap_swap] at swap'
    cases outcome : cmp a b with
    | eq => exact decided outcome
    | lt => exact apart a ha b hb outcome (swap'.trans outcome)
    | gt =>
      rw [outcome] at swap swapped
      exact apart b hb a ha swap swapped
  · -- Both orders say the same of all pairs, so that the list is sorted by either.
    intro agree
    have sorted_too : zs.Pairwise fun a b => cmp a b ≠ .gt := by
      refine sorted.imp_of_mem fun {a b} ha hb le => ?_
      have same := eq_of_not_opposed (level a (from_zs ha) b (from_zs hb))
        (agree a (from_zs ha) b (from_zs hb))
      rwa [← same]
    exact h.map_eq (.refl sorted_too) perm.symm fun a ha b hb => (shown a ha b hb).mp

end TwoOrders

/-! ## Keys under which items part ways -/

namespace Value

variable {cmp cmp' : Value → Value → Ordering} {v w : Value}

/-- Lists of which one begins the other are both there. -/
theorem Begins.isNull (h : v.Begins w) : v.isNull = false ∧ w.isNull = false := by
  obtain ⟨front, rest, -, rfl, alike⟩ := h
  refine ⟨?_, rfl⟩
  cases v with
  | null => simp [same, scalar?] at alike
  | _ => rfl

/-- Missing values are never ordered in opposite ways. -/
theorem opposed_nullsLast_iff : Opposed (nullsLast cmp v w) (nullsLast cmp' v w) ↔
    v.isNull = false ∧ w.isNull = false ∧ Opposed (cmp v w) (cmp' v w) := by
  unfold nullsLast
  cases v.isNull <;> cases w.isNull <;> simp [Opposed]

/-- Missing values do not matter to what is level. -/
theorem nullsLast_eq_eq_congr (level : cmp' v w = .eq ↔ cmp v w = .eq) :
    nullsLast cmp' v w = .eq ↔ nullsLast cmp v w = .eq := by
  unfold nullsLast
  cases v.isNull <;> cases w.isNull <;> first | exact level | exact Iff.rfl

end Value

/-- To turn an order does not change what is equal. -/
theorem Direction.turn_eq_eq (d : Direction) (o : Ordering) : d.turn o = .eq ↔ o = .eq := by
  cases d <;> cases o <;> decide

/-- To turn both orders does not change whether they are opposed. -/
theorem Direction.opposed_turn_iff (d : Direction) (o o' : Ordering) :
    Opposed (d.turn o) (d.turn o') ↔ Opposed o o' := by
  cases d <;> cases o <;> cases o' <;> simp [Opposed, turn]

namespace Query

/-- The first key that tells two items apart shows lists of which one begins the other. -/
inductive PartWays {α : Type} (view : α → Value) : List SortKey → α → α → Prop
  | byKey {k : SortKey} {keys : List SortKey} {a b : α} :
    ((view a).resolve k.field).Begins ((view b).resolve k.field) ∨
      ((view b).resolve k.field).Begins ((view a).resolve k.field) →
    PartWays view (k :: keys) a b
  | afterTie {k : SortKey} {keys : List SortKey} {a b : α} :
    ((view a).resolve k.field).Level ((view b).resolve k.field) → PartWays view keys a b →
    PartWays view (k :: keys) a b

/-- Two items part ways at the first key, or are level there and part ways at a later one. -/
theorem partWays_cons_iff {α : Type} {view : α → Value} {k : SortKey} {keys : List SortKey}
    {a b : α} : PartWays view (k :: keys) a b ↔
      (((view a).resolve k.field).Begins ((view b).resolve k.field) ∨
          ((view b).resolve k.field).Begins ((view a).resolve k.field)) ∨
        ((view a).resolve k.field).Level ((view b).resolve k.field) ∧ PartWays view keys a b := by
  constructor
  · rintro (begins | ⟨tied, part⟩)
    · exact .inl begins
    · exact .inr ⟨tied, part⟩
  · rintro (begins | ⟨tied, part⟩)
    · exact .byKey begins
    · exact .afterTie tied part

/-- Under a key that shows the marks of roles, two roles part ways if the marks of one begin those
of the other. -/
theorem partWays_marks_iff (d : Direction) (a b : Role) :
    PartWays Entity.toValue [⟨"merkmale", d⟩] a b ↔
      a.marks ≠ b.marks ∧ (a.marks <+: b.marks ∨ b.marks <+: a.marks) := by
  have there : ⟨"merkmale", .json, true⟩ ∈ Collection.roles.table.columns := by decide
  have shows (x : Role) : (Entity.toValue x).resolve "merkmale" =
      .list ((x.marks.map Selectable.choose).map .choice) := by
    rw [Collection.resolve_column (c := .roles) there x, List.map_map]
    rfl
  have texts (x : Role) : (x.marks.map Selectable.choose).map Choice.text =
      x.marks.map RoleMark.text := List.map_map ..
  have apart : Function.Injective RoleMark.text := Vocabulary.text_injective
  have ends : ¬PartWays Entity.toValue [] a b := nofun
  rw [partWays_cons_iff, shows, shows, Value.begins_terms_iff, Value.begins_terms_iff, texts, texts,
    List.prefix_map_iff_of_injective apart, List.prefix_map_iff_of_injective apart,
    ne_eq, ne_eq, List.map_inj_right fun _ _ => @apart _ _,
    List.map_inj_right fun _ _ => @apart _ _]
  have symm := @eq_comm _ a.marks b.marks
  tauto

/-- There is a statement for the query; on the rows of the items it finds those of one list, and
evaluation shows the other list. -/
def Answers (c : Collection) (items : List c.Item) (q : Query) (found shown : List c.Item) : Prop :=
  ∃ statement page answer,
    Statement.ofQuery c.table q = .ok statement ∧
    q.evaluate Entity.toValue items = .ok page ∧
    statement.run (items.map c.toRow) = .ok answer ∧
    c.ofRows answer.items = .ok found ∧
    page.items = shown

/-- What the statement finds has the same values under the sort keys as what evaluation shows, place
by place. -/
def ShowsAlike (c : Collection) (items : List c.Item) (q : Query) : Prop :=
  ∃ found shown, Answers c items q found shown ∧ found.map q.keyValues = shown.map q.keyValues

/-- The query is about fields of items, and it demands values that stored items show in them. -/
structure AsksStored (c : Collection) (q : Query) : Prop where
  built : q.WellBuilt c.subject
  taken : ∀ g ∈ q.groups, ∀ k ∈ g.conditions, ∃ x : c.Item, Entity.recalled x = x ∧
    (Entity.toValue x).resolve k.field = k.value

variable {c : Collection} {q : Query} {items : List c.Item}

theorem mem_matching {x : c.Item} : x ∈ q.matching Entity.toValue items ↔
    x ∈ items ∧ q.Meets (Entity.toValue x) := by
  rw [matching, List.mem_filter, holds_iff]

/-- A query has one answer over each store. -/
theorem Answers.unique {found shown found' shown' : List c.Item}
    (h : Answers c items q found shown) (h' : Answers c items q found' shown') :
    found = found' ∧ shown = shown' := by
  obtain ⟨statement, page, answer, compiled, evaluated, answered, read, rfl⟩ := h
  obtain ⟨statement', page', answer', compiled', evaluated', answered', read', rfl⟩ := h'
  obtain rfl := Except.ok.inj (compiled.symm.trans compiled')
  obtain rfl := Except.ok.inj (evaluated.symm.trans evaluated')
  obtain rfl := Except.ok.inj (answered.symm.trans answered')
  exact ⟨Except.ok.inj (read.symm.trans read'), rfl⟩

section Stored

variable (stored : ∀ x ∈ items, Entity.recalled x = x)

include stored

open Value

/-- One key tells the same items apart in both orders. -/
theorem keyOrder_level_iff {k : SortKey} (known : k.field ∈ c.subject.fields) {a b : c.Item}
    (ha : a ∈ items) (hb : b ∈ items) :
    keyOrder Entity.toValue columnOrder k a b = .eq ↔
      keyOrder Entity.toValue textsOrder k a b = .eq := by
  obtain ⟨t, held⟩ := Collection.exists_held stored known
  unfold keyOrder
  rw [Direction.turn_eq_eq, Direction.turn_eq_eq]
  exact nullsLast_eq_eq_congr ((held a ha).level_iff (held b hb) k)

/-- Under one key the orders oppose each other where one value begins the other. -/
theorem opposed_keyOrder_iff {k : SortKey} (known : k.field ∈ c.subject.fields) {a b : c.Item}
    (ha : a ∈ items) (hb : b ∈ items) :
    Opposed (keyOrder Entity.toValue textsOrder k a b)
        (keyOrder Entity.toValue columnOrder k a b) ↔
      ((Entity.toValue a).resolve k.field).Begins ((Entity.toValue b).resolve k.field) ∨
        ((Entity.toValue b).resolve k.field).Begins ((Entity.toValue a).resolve k.field) := by
  obtain ⟨t, held⟩ := Collection.exists_held stored known
  unfold keyOrder
  rw [Direction.opposed_turn_iff, opposed_nullsLast_iff, (held a ha).opposed_iff (held b hb) k]
  constructor
  · intro opposed
    exact opposed.2.2
  · rintro (begins | begins)
    · exact ⟨begins.isNull.1, begins.isNull.2, .inl begins⟩
    · exact ⟨begins.isNull.2, begins.isNull.1, .inr begins⟩

theorem keysOrder_level_iff {keys : List SortKey} (known : ∀ k ∈ keys, k.field ∈ c.subject.fields)
    {a b : c.Item} (ha : a ∈ items) (hb : b ∈ items) :
    keysOrder Entity.toValue columnOrder keys a b = .eq ↔
      keysOrder Entity.toValue textsOrder keys a b = .eq := by
  induction keys with
  | nil => exact Iff.rfl
  | cons k keys ih =>
    obtain ⟨here, later⟩ := List.forall_mem_cons.mp known
    have both := and_congr (keyOrder_level_iff stored here ha hb) (ih later)
    exact Ordering.then_eq_eq.trans (both.trans Ordering.then_eq_eq.symm)

/-- The orders of memory and database oppose each other on items that part ways, and only there. -/
theorem opposed_keysOrder_iff {keys : List SortKey} (known : ∀ k ∈ keys, k.field ∈ c.subject.fields)
    {a b : c.Item} (ha : a ∈ items) (hb : b ∈ items) :
    Opposed (keysOrder Entity.toValue textsOrder keys a b)
        (keysOrder Entity.toValue columnOrder keys a b) ↔ PartWays Entity.toValue keys a b := by
  induction keys with
  | nil => exact ⟨fun opposed => absurd rfl opposed.1, nofun⟩
  | cons k keys ih =>
    obtain ⟨here, later⟩ := List.forall_mem_cons.mp known
    have first := opposed_keyOrder_iff stored here ha hb
    have tie := keyOrder_eq_eq (compares_textsOrder stored here) ha hb
    refine (opposed_then_iff (keyOrder_level_iff stored here ha hb)).trans ?_
    rw [first, ih later, tie, partWays_cons_iff]

/-- The keys tell apart what differs in the values under them. -/
theorem keysOrder_eq_eq_iff_keyValues (known : ∀ k ∈ q.sort, k.field ∈ c.subject.fields)
    {a b : c.Item} (ha : a ∈ items) (hb : b ∈ items) :
    keysOrder Entity.toValue textsOrder q.sort a b = .eq ↔ q.keyValues a = q.keyValues b := by
  rw [keysOrder_eq_eq (fun k hk => compares_textsOrder stored (known k hk)) ha hb]
  unfold keyValues
  rw [List.map_inj_left]
  refine forall₂_congr fun k hk => ⟨fun level => ?_, fun same => ?_⟩
  · obtain ⟨col, -, there, name, keeps⟩ := Collection.exists_keeps (known k hk)
    rw [← name, Collection.resolve_column there, Collection.resolve_column there] at level ⊢
    exact keeps.level a b (stored a ha) (stored b hb) level
  · have level := (keyOrder_eq_eq (compares_textsOrder stored (known k hk)) ha ha).mp
      ReflCmp.compare_self
    rwa [← same]

/-- Evaluation shows the matches arranged by the texts of the values. -/
theorem exists_arranged (known : ∀ k ∈ q.sort, k.field ∈ c.subject.fields) :
    ∃ sorted, arranged Entity.toValue q.sort (q.matching Entity.toValue items) = .ok sorted ∧
      Arranged (keysOrder Entity.toValue textsOrder q.sort) (q.matching Entity.toValue items)
        sorted := by
  have among : ∀ x ∈ q.matching Entity.toValue items, x ∈ items :=
    fun x hx => (mem_matching.mp hx).1
  exact arranged_ok fun k hk => (compares_textsOrder stored (known k hk)).mono among

/-- A query that asks for stored values compiles to a statement. -/
theorem AsksStored.compiles (asks : q.AsksStored c) : q.Compiles c items columnOrder where
  groups g hg := by
    obtain ⟨some_condition, about⟩ := asks.built.groups g hg
    refine ⟨some_condition, fun k hk => ?_⟩
    exact Statement.IsTested.of_stored stored (about k hk).1 (about k hk).2 (asks.taken g hg k hk)
  keys k hk := Statement.IsOrdered.of_stored stored (asks.built.sort k hk)

/-- The windows are cut out of the two arrangements of the matches. -/
theorem AsksStored.answers (asks : q.AsksStored c) {sorted : List c.Item}
    (done : arranged Entity.toValue q.sort (q.matching Entity.toValue items) = .ok sorted)
    (offset limit : Option Nat)
    (narrow : (q.windowed (offset.map Int.ofNat) (limit.map Int.ofNat)).Narrow) :
    Answers c items (q.windowed (offset.map Int.ofNat) (limit.map Int.ofNat))
      (((q.selected columnOrder items).drop (offset.getD 0)).take
        (limit.getD (q.selected columnOrder items).length))
      ((sorted.drop (offset.getD 0)).take (limit.getD sorted.length)) := by
  have compiles : (q.windowed (offset.map Int.ofNat) (limit.map Int.ofNat)).Compiles c items
      columnOrder := ⟨(asks.compiles stored).groups, (asks.compiles stored).keys⟩
  obtain ⟨statement, compiled, answered⟩ := compiles.run_statement narrow rfl rfl
  have evaluated := evaluate_arranged
    (q := q.windowed (offset.map Int.ofNat) (limit.map Int.ofNat)) done rfl rfl
  refine ⟨statement, _, _, compiled, evaluated, answered, ?_, rfl⟩
  -- Stored items are read from their rows as they were.
  rw [c.ofRows_map_toRow]
  refine congrArg Except.ok ((List.map_congr_left fun x hx => ?_).trans (List.map_id _))
  have among : x ∈ q.selected columnOrder items := List.mem_of_mem_drop (List.mem_of_mem_take hx)
  exact stored x (mem_matching.mp (List.mem_mergeSort.mp among)).1

/-- The two arrangements show the same values exactly if no two matches part ways. -/
theorem keyValues_arranged_iff (known : ∀ k ∈ q.sort, k.field ∈ c.subject.fields)
    {sorted : List c.Item} (arranged : Arranged (keysOrder Entity.toValue textsOrder q.sort)
      (q.matching Entity.toValue items) sorted) :
    sorted.map q.keyValues = (q.selected columnOrder items).map q.keyValues ↔
      ∀ a ∈ items, ∀ b ∈ items, q.Meets (Entity.toValue a) → q.Meets (Entity.toValue b) →
        ¬PartWays Entity.toValue q.sort a b := by
  have among {x : c.Item} (hx : x ∈ q.matching Entity.toValue items) : x ∈ items :=
    (mem_matching.mp hx).1
  rw [arranged.map_eq_iff_not_opposed (selected_arranged q items).perm (selected_sorted q items)
    (fun a ha b hb => keysOrder_eq_eq_iff_keyValues stored known (among ha) (among hb))
    fun a ha b hb => keysOrder_level_iff stored known (among ha) (among hb)]
  constructor
  · intro agree a ha b hb meets_a meets_b part
    exact agree a (mem_matching.mpr ⟨ha, meets_a⟩) b (mem_matching.mpr ⟨hb, meets_b⟩)
      ((opposed_keysOrder_iff stored known ha hb).mpr part)
  · intro apart a ha b hb opposed
    obtain ⟨ha, meets_a⟩ := mem_matching.mp ha
    obtain ⟨hb, meets_b⟩ := mem_matching.mp hb
    exact apart a ha b hb meets_a meets_b
      ((opposed_keysOrder_iff stored known ha hb).mp opposed)

/-- Without a window both ways show the same exactly if no two matches part ways. -/
theorem showsAlike_whole_iff (asks : q.AsksStored c) :
    ShowsAlike c items (q.windowed none none) ↔
      ∀ a ∈ items, ∀ b ∈ items, q.Meets (Entity.toValue a) → q.Meets (Entity.toValue b) →
        ¬PartWays Entity.toValue q.sort a b := by
  obtain ⟨sorted, done, arranged⟩ := exists_arranged stored asks.built.sort
  have answers : Answers c items (q.windowed none none) (q.selected columnOrder items) sorted := by
    simpa using asks.answers stored done none none ⟨nofun, nofun⟩
  rw [← keyValues_arranged_iff stored asks.built.sort arranged]
  constructor
  · rintro ⟨found, shown, others, same⟩
    obtain ⟨rfl, rfl⟩ := answers.unique others
    exact same.symm
  · intro same
    exact ⟨_, _, answers, same.symm⟩

end Stored

/-- The statement of a query about fields of stored items shows the same values under the sort keys
as evaluation in every window exactly if no two matches part ways: lists that begin one another
stand the other way round in the database. -/
theorem showsAlike_windows_iff (asks : q.AsksStored c)
    (stored : ∀ x ∈ items, Entity.recalled x = x) :
    (∀ offset limit : Option Nat,
      (q.windowed (offset.map Int.ofNat) (limit.map Int.ofNat)).Narrow →
        ShowsAlike c items (q.windowed (offset.map Int.ofNat) (limit.map Int.ofNat))) ↔
      ∀ a ∈ items, ∀ b ∈ items, q.Meets (Entity.toValue a) → q.Meets (Entity.toValue b) →
        ¬PartWays Entity.toValue q.sort a b := by
  constructor
  · intro alike
    exact (showsAlike_whole_iff stored asks).mp (alike none none ⟨nofun, nofun⟩)
  · intro apart offset limit narrow
    obtain ⟨sorted, done, arranged⟩ := exists_arranged stored asks.built.sort
    have same := (keyValues_arranged_iff stored asks.built.sort arranged).mpr apart
    have length : sorted.length = (q.selected Value.columnOrder items).length := by
      simpa using congrArg List.length same
    refine ⟨_, _, asks.answers stored done offset limit narrow, ?_⟩
    rw [List.map_take, List.map_take, List.map_drop, List.map_drop]
    show ((List.map q.keyValues _).drop _).take _ = ((List.map q.keyValues _).drop _).take _
    rw [same, length]

/-- Teachers by their marks, the last one first: the marks of the head begin those of a teacher, but
the head is no match, and of the marks of the teachers none begin the others. -/
theorem showsAlike_windows_teachers :
    let role (kind : RoleKind) (marks : List RoleMark) : Role :=
      { Role.blank with kind := some kind, marks := marks }
    let items := [role .teacher [.personnelNumber], role .head [.limitedTerm],
      role .teacher [.limitedTerm, .personnelNumber]]
    let teachers : Fields := [("rollenart", .choice (Selectable.choose RoleKind.teacher))]
    let q := (all.restrict .all teachers).sortedBy "merkmale" .descending
    q.AsksStored .roles ∧ (∀ x ∈ items, Entity.recalled x = x) ∧
      ∀ offset limit : Option Nat,
        (q.windowed (offset.map Int.ofNat) (limit.map Int.ofNat)).Narrow →
          ShowsAlike .roles items (q.windowed (offset.map Int.ofNat) (limit.map Int.ofNat)) := by
  intro role items teachers q
  have asks : q.AsksStored .roles := by
    refine ⟨((WellBuilt.all .roles).restrict .all (by decide)).sortedBy .descending (by decide), ?_⟩
    rintro g (_ | ⟨_, ⟨⟩⟩) k (_ | ⟨_, ⟨⟩⟩)
    exact ⟨role .teacher [], rfl, rfl⟩
  have stored : ∀ x ∈ items, Entity.recalled x = x := by decide
  have teaches (x : Role) (meets : q.Meets (Entity.toValue x)) : x.kind ≠ some .head := by
    intro kind
    have there : ⟨"rollenart", .varchar 32, false⟩ ∈ Collection.roles.table.columns := by decide
    have shown :
        (Entity.toValue x).resolve "rollenart" = .choice (Selectable.choose RoleKind.head) := by
      rw [Collection.resolve_column (c := .roles) there x]
      exact congrArg (Codec.term? RoleKind).write kind
    have same : ((Entity.toValue x).resolve "rollenart").same
        (.choice (Selectable.choose RoleKind.teacher)) = true :=
      meets _ List.mem_cons_self _ List.mem_cons_self
    rw [shown, Value.same_of_scalar rfl rfl] at same
    exact absurd same (by decide)
  refine ⟨asks, stored, (showsAlike_windows_iff asks stored).mpr ?_⟩
  intro a ha b hb meets_a meets_b part
  have among : ∀ x ∈ items, ∀ y ∈ items, x.kind ≠ some .head → y.kind ≠ some .head →
      ¬(x.marks ≠ y.marks ∧ (x.marks <+: y.marks ∨ y.marks <+: x.marks)) := by decide
  exact among a ha b hb (teaches a meets_a) (teaches b meets_b) ((partWays_marks_iff _ a b).mp part)

/-- Of two stored roles the one without marks stands first in memory and last in the database. -/
theorem marks_sorted_apart :
    let role (marks : List RoleMark) : Role := { Role.blank with marks := marks }
    let items := [role [.personnelNumber], role []]
    let q := all.sortedBy "merkmale" .ascending
    (∀ x ∈ items, Entity.recalled x = x) ∧ ∃ found shown,
      Answers .roles items q found shown ∧ found.map q.keyValues ≠ shown.map q.keyValues := by
  intro role items q
  have asks : q.AsksStored .roles :=
    ⟨(WellBuilt.all .roles).sortedBy .ascending (by decide), List.forall_mem_nil _⟩
  have stored : ∀ x ∈ items, Entity.recalled x = x := by decide
  obtain ⟨sorted, done, arranged⟩ := exists_arranged (c := .roles) stored asks.built.sort
  have answers : Answers .roles items (q.windowed none none) (q.selected Value.columnOrder items)
      sorted := by
    simpa using asks.answers stored done none none ⟨nofun, nofun⟩
  refine ⟨stored, _, _, answers, fun same => ?_⟩
  have apart := (keyValues_arranged_iff stored asks.built.sort arranged).mp same.symm
  refine apart _ List.mem_cons_self _ (.tail _ List.mem_cons_self) nofun nofun ?_
  exact (partWays_marks_iff _ _ _).mpr (by decide)

end Query

end SchoolRegistry
