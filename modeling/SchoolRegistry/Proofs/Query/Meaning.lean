import SchoolRegistry.Proofs.Query.Arrangement
import SchoolRegistry.Query.Evaluate

/-!
# What a query means

The meaning of a query is stated without a way to compute it. `Query.Meets` says which candidates
match: those of which every group holds. `Query.IsArranged` says how they stand: nothing stands
before what precedes it by the first key that tells the two apart, and full ties stand as the
candidates do. Missing values are last in ascending order and first in descending order.

Evaluation finds the one arrangement of the matches and cuts the window out of it
(`Query.evaluate_eq_window`). It needs that the values of each key can be put in an order; how a
query fails on other values is not settled here.
-/

namespace SchoolRegistry

open Std

variable {α : Type} {view : α → Value}

/-! ## Matches -/

/-- The value that the field leads to equals the one demanded. -/
def Condition.Meets (c : Condition) (v : Value) : Prop := (v.resolve c.field).same c.value = true

/-- Every condition is met, or one of them, as the connective says. -/
def ConditionGroup.Meets (g : ConditionGroup) (v : Value) : Prop :=
  match g.connective with
  | .all => ∀ c ∈ g.conditions, c.Meets v
  | .any => ∃ c ∈ g.conditions, c.Meets v

/-- Every group is met. -/
def Query.Meets (q : Query) (v : Value) : Prop := ∀ g ∈ q.groups, g.Meets v

/-- Evaluation finds that a group holds exactly if the value meets it. -/
theorem ConditionGroup.holds_iff {g : ConditionGroup} {v : Value} :
    g.holds v = true ↔ g.Meets v := by
  unfold holds Meets
  cases g.connective with
  | all => exact List.all_eq_true
  | any => exact List.any_eq_true

/-- Evaluation finds a match exactly if the value meets every group. -/
theorem Query.holds_iff {q : Query} {v : Value} : q.holds v = true ↔ q.Meets v := by
  unfold holds Meets
  rw [List.all_eq_true]
  exact forall₂_congr fun g _ => ConditionGroup.holds_iff

instance (q : Query) (v : Value) : Decidable (q.Meets v) := decidable_of_iff _ Query.holds_iff

/-! ## Order of values -/

/-- The values can be put in an order: there is one by which any two of them compare as they do. -/
def Value.Orderable (vs : List Value) : Prop :=
  ∃ cmp : Value → Value → Ordering, TransCmp cmp ∧
    ∀ a ∈ vs, ∀ b ∈ vs, a.compare? b = some (cmp a b)

/-- Neither value stands before the other: they are equal, or both are missing. -/
def Value.Level (a b : Value) : Prop := a.compare? b = some .eq

/-- One value stands before the other. A missing one stands behind all others in ascending order
and before them in descending order. -/
def Direction.Before : Direction → Value → Value → Prop
  | .ascending, a, b => a.compare? b = some .lt ∨ a.isNull = false ∧ b.isNull = true
  | .descending, a, b => a.compare? b = some .gt ∨ a.isNull = true ∧ b.isNull = false

namespace Query

/-- One candidate precedes the other: by a key that puts it before, after keys that do not tell
the two apart. -/
inductive Precedes (view : α → Value) : List SortKey → α → α → Prop
  | byKey {k : SortKey} {keys : List SortKey} {a b : α} :
    k.direction.Before ((view a).resolve k.field) ((view b).resolve k.field) →
    Precedes view (k :: keys) a b
  | afterTie {k : SortKey} {keys : List SortKey} {a b : α} :
    ((view a).resolve k.field).Level ((view b).resolve k.field) → Precedes view keys a b →
    Precedes view (k :: keys) a b

/-- No key tells the two candidates apart. -/
def Ties (view : α → Value) (keys : List SortKey) (a b : α) : Prop :=
  ∀ k ∈ keys, ((view a).resolve k.field).Level ((view b).resolve k.field)

instance (keys : List SortKey) (a b : α) : Decidable (Ties view keys a b) :=
  inferInstanceAs (Decidable (∀ k ∈ keys,
    ((view a).resolve k.field).compare? ((view b).resolve k.field) = some .eq))

/-- The items are the matches found, none behind one that it precedes, and full ties as they were
found. -/
structure IsArranged (view : α → Value) (keys : List SortKey) (found items : List α) : Prop where
  members : items.Perm found
  ordered : items.Pairwise fun a b => ¬Precedes view keys b a
  stable : ∀ a ∈ found, (items.filter fun b => decide (Ties view keys a b)) =
    found.filter fun b => decide (Ties view keys a b)

end Query

/-! ## Comparisons that orders give -/

/-- A missing value is level with a missing one and compares with no other. -/
theorem Value.compare?_of_isNull {a b : Value} (h : a.isNull = true) :
    a.compare? b = if b.isNull then some .eq else none := by
  cases a <;> cases h
  cases b <;> simp [Value.compare?, Value.same, Value.isNull, Value.scalar?]

/-- A missing value is level with missing values and with nothing else. -/
theorem Value.compare?_of_isNull_right {a b : Value} (h : b.isNull = true) :
    a.compare? b = if a.isNull then some .eq else none := by
  cases b <;> cases h
  cases a <;> simp [Value.compare?, Value.same, Value.isNull, Value.scalar?]

/-- Values of which any two can be compared can be sorted. -/
theorem Value.sortable_of_isSome {vs : List Value}
    (h : ∀ a ∈ vs, ∀ b ∈ vs, (a.compare? b).isSome = true) : Value.sortable vs = true := by
  induction vs with
  | nil => rfl
  | cons v vs ih =>
    rw [Value.sortable, Bool.and_eq_true, List.all_eq_true]
    refine ⟨fun w hw => h v List.mem_cons_self w (List.mem_cons_of_mem _ hw), ih ?_⟩
    exact fun a ha b hb => h a (List.mem_cons_of_mem _ ha) b (List.mem_cons_of_mem _ hb)

/-- Comparing what a function shows. -/
theorem transCmp_on {β : Type} (f : α → β) {cmp : β → β → Ordering} [TransCmp cmp] :
    TransCmp fun a b => cmp (f a) (f b) where
  eq_swap := OrientedCmp.eq_swap
  isLE_trans := TransCmp.isLE_trans

/-- Scalars are equal as values if they are equal. -/
theorem Value.same_of_scalar {a b : Value} {x y : Scalar} (ha : a.scalar? = some x)
    (hb : b.scalar? = some y) : a.same b = x.same y := by
  cases a <;> cases ha <;> cases b <;> cases hb <;> simp only [Value.same, Value.scalar?]

/-- Scalars are ordered as values as they are ordered. -/
theorem Value.compare?_of_scalar {a b : Value} {x y : Scalar} (ha : a.scalar? = some x)
    (hb : b.scalar? = some y) : a.compare? b = x.compare? y := by
  have tested : a.compare? b = if a.same b then some .eq else x.compare? y := by
    cases a <;> cases ha <;> cases b <;> cases hb <;> simp only [Value.compare?, Value.scalar?]
  rw [tested, Value.same_of_scalar ha hb, Scalar.same]
  split
  · exact (beq_iff_eq.mp ‹_›).symm
  · rfl

/-- Values that compare as keys of them do can be put in an order. -/
theorem Value.orderable_of_key {β : Type} [Ord β] [TransOrd β] {vs : List Value} (key : Value → β)
    (h : ∀ a ∈ vs, ∀ b ∈ vs, a.compare? b = some (compare (key a) (key b))) : Orderable vs :=
  ⟨fun a b => compare (key a) (key b), transCmp_on key, h⟩

/-- The comparison of values with missing ones behind all others. -/
def Value.nullsLast (cmp : Value → Value → Ordering) (a b : Value) : Ordering :=
  match a.isNull, b.isNull with
  | true, true => .eq
  | true, false => .gt
  | false, true => .lt
  | false, false => cmp a b

/-- An outcome of a comparison in a direction. -/
def Direction.turn : Direction → Ordering → Ordering
  | .ascending, o => o
  | .descending, o => o.swap

instance (cmp : Value → Value → Ordering) [TransCmp cmp] : TransCmp (Value.nullsLast cmp) where
  eq_swap {a b} := by
    have swap : cmp a b = (cmp b a).swap := OrientedCmp.eq_swap
    unfold Value.nullsLast
    cases a.isNull <;> cases b.isNull <;> first | rfl | exact swap
  isLE_trans {a b c} := by
    have trans : (cmp a b).isLE = true → (cmp b c).isLE = true → (cmp a c).isLE = true :=
      TransCmp.isLE_trans
    unfold Value.nullsLast
    cases a.isNull <;> cases b.isNull <;> cases c.isNull <;> first | exact trans | simp

instance (d : Direction) (cmp : α → α → Ordering) [TransCmp cmp] :
    TransCmp fun a b => d.turn (cmp a b) := by
  cases d with
  | ascending => exact inferInstanceAs (TransCmp cmp)
  | descending =>
    have turned : (fun a b => Direction.descending.turn (cmp a b)) = fun a b => cmp b a :=
      funext₂ fun a b => OrientedCmp.eq_swap.symm
    rw [turned]
    exact { eq_swap := OrientedCmp.eq_swap, isLE_trans := fun h h' => TransCmp.isLE_trans h' h }

namespace Query

variable {cmp : SortKey → Value → Value → Ordering} {keys : List SortKey} {k : SortKey}
  {found items : List α}

/-- The comparison of candidates by one key. -/
def keyOrder (view : α → Value) (cmp : SortKey → Value → Value → Ordering) (k : SortKey)
    (a b : α) : Ordering :=
  k.direction.turn
    (Value.nullsLast (cmp k) ((view a).resolve k.field) ((view b).resolve k.field))

/-- The comparison of candidates by keys, of which the first weighs most. -/
def keysOrder (view : α → Value) (cmp : SortKey → Value → Value → Ordering) :
    List SortKey → α → α → Ordering
  | [] => fun _ _ => .eq
  | k :: keys => compareLex (keyOrder view cmp k) (keysOrder view cmp keys)

instance [∀ k, TransCmp (cmp k)] (k : SortKey) : TransCmp (keyOrder view cmp k) :=
  have : TransCmp fun a b => Value.nullsLast (cmp k) ((view a).resolve k.field)
      ((view b).resolve k.field) := transCmp_on fun a => (view a).resolve k.field
  inferInstanceAs (TransCmp fun a b => k.direction.turn (Value.nullsLast (cmp k)
    ((view a).resolve k.field) ((view b).resolve k.field)))

/-- Sort keys together give an order if each of them does. -/
theorem transCmp_keysOrder [∀ k, TransCmp (cmp k)] (keys : List SortKey) :
    TransCmp (keysOrder view cmp keys) := by
  induction keys with
  | nil => exact { eq_swap := rfl, isLE_trans := fun _ _ => rfl }
  | cons k keys ih => exact inferInstanceAs (TransCmp (compareLex _ _))

instance [∀ k, TransCmp (cmp k)] (keys : List SortKey) : TransCmp (keysOrder view cmp keys) :=
  transCmp_keysOrder keys

/-- The values that the items show under a key compare as the comparison says. -/
def Compares (view : α → Value) (cmp : SortKey → Value → Value → Ordering) (items : List α)
    (k : SortKey) : Prop :=
  ∀ a ∈ items, ∀ b ∈ items, ((view a).resolve k.field).isNull = false →
    ((view b).resolve k.field).isNull = false →
    ((view a).resolve k.field).compare? ((view b).resolve k.field) =
      some (cmp k ((view a).resolve k.field) ((view b).resolve k.field))

/-- An order of some items is one of fewer items. -/
theorem Compares.mono (h : Compares view cmp found k) (sub : ∀ a ∈ items, a ∈ found) :
    Compares view cmp items k := fun a ha b hb => h a (sub a ha) b (sub b hb)

/-! ## Sorting -/

/-- Where the values compare, one may stand before the other unless the comparison forbids it. -/
theorem keeps_eq (h : Compares view cmp items k) (ha : a ∈ items) (hb : b ∈ items) :
    k.direction.keeps ((view a).resolve k.field) ((view b).resolve k.field) =
      (keyOrder view cmp k a b != .gt) := by
  have same : ((view a).resolve k.field).compareNullsLast ((view b).resolve k.field) =
      Value.nullsLast (cmp k) ((view a).resolve k.field) ((view b).resolve k.field) := by
    unfold Value.compareNullsLast Value.nullsLast
    cases na : ((view a).resolve k.field).isNull <;>
      cases nb : ((view b).resolve k.field).isNull <;> try rfl
    rw [h a ha b hb na nb, Option.getD_some]
  unfold Direction.keeps keyOrder
  cases k.direction with
  | ascending => rw [same]; rfl
  | descending =>
    rw [same, Direction.turn]
    cases Value.nullsLast (cmp k) _ _ <;> rfl

/-- Sorting by a key whose values compare arranges the items by it. -/
theorem sortedByKey_arranged [TransCmp (keyOrder view cmp k)] (h : Compares view cmp items k) :
    ∃ sorted, sortedByKey view k items = .ok sorted ∧
      Arranged (keyOrder view cmp k) items sorted := by
  refine ⟨items.mergeSort fun a b => keyOrder view cmp k a b != .gt, ?_, arranged_mergeSort items⟩
  have comparable : Value.sortable ((items.map fun x => (view x).resolve k.field).filter
      fun v => !v.isNull) = true := by
    refine Value.sortable_of_isSome fun v hv w hw => ?_
    obtain ⟨hv, nv⟩ := List.mem_filter.mp hv
    obtain ⟨hw, nw⟩ := List.mem_filter.mp hw
    obtain ⟨a, ha, rfl⟩ := List.mem_map.mp hv
    obtain ⟨b, hb, rfl⟩ := List.mem_map.mp hw
    rw [h a ha b hb (by simpa using nv) (by simpa using nw)]
    rfl
  unfold sortedByKey
  rw [if_pos comparable, mergeSort_congr fun a ha b hb => keeps_eq h ha hb]

/-- Sorting by the keys from the last to the first arranges the items by all of them. -/
theorem arranged_ok [∀ k, TransCmp (cmp k)] (h : ∀ k ∈ keys, Compares view cmp items k) :
    ∃ sorted, arranged view keys items = .ok sorted ∧
      Arranged (keysOrder view cmp keys) items sorted := by
  induction keys with
  | nil =>
    refine ⟨items, rfl, .refl (List.pairwise_of_forall_mem_list fun _ _ _ _ => ?_)⟩
    exact nofun
  | cons k keys ih =>
    obtain ⟨inner, done, first⟩ := ih fun k hk => h k (List.mem_cons_of_mem _ hk)
    have compares : Compares view cmp inner k :=
      (h k List.mem_cons_self).mono fun a ha => first.perm.mem_iff.mp ha
    obtain ⟨sorted, done', second⟩ := sortedByKey_arranged compares
    refine ⟨sorted, ?_, first.lex second⟩
    rw [arranged, done]
    exact done'

/-! ## The declared order -/

/-- The order of a key levels what shows level values. -/
theorem keyOrder_eq_eq (h : Compares view cmp items k) (ha : a ∈ items) (hb : b ∈ items) :
    keyOrder view cmp k a b = .eq ↔
      ((view a).resolve k.field).Level ((view b).resolve k.field) := by
  have turned (o : Ordering) : k.direction.turn o = .eq ↔ o = .eq := by
    cases k.direction <;> cases o <;> decide
  rw [keyOrder, turned, Value.Level, Value.nullsLast]
  cases na : ((view a).resolve k.field).isNull <;> cases nb : ((view b).resolve k.field).isNull
  · simp [h a ha b hb na nb]
  · simp [Value.compare?_of_isNull_right nb, na]
  · simp [Value.compare?_of_isNull na, nb]
  · simp [Value.compare?_of_isNull na, nb]

/-- The order of a key puts first what its direction puts first. -/
theorem keyOrder_eq_lt (h : Compares view cmp items k) (ha : a ∈ items) (hb : b ∈ items) :
    keyOrder view cmp k a b = .lt ↔
      k.direction.Before ((view a).resolve k.field) ((view b).resolve k.field) := by
  unfold keyOrder Value.nullsLast
  cases k.direction <;> unfold Direction.Before Direction.turn <;>
    cases na : ((view a).resolve k.field).isNull <;>
    cases nb : ((view b).resolve k.field).isNull <;>
    simp [h a ha b hb, Value.compare?_of_isNull, Value.compare?_of_isNull_right, na, nb]

/-- The order of all keys levels full ties and nothing else. -/
theorem keysOrder_eq_eq (h : ∀ k ∈ keys, Compares view cmp items k) (ha : a ∈ items)
    (hb : b ∈ items) : keysOrder view cmp keys a b = .eq ↔ Ties view keys a b := by
  induction keys with
  | nil => simp [keysOrder, Ties]
  | cons k keys ih =>
    have first := keyOrder_eq_eq (h k List.mem_cons_self) ha hb
    have rest := ih fun k hk => h k (List.mem_cons_of_mem _ hk)
    unfold Ties at rest ⊢
    rw [List.forall_mem_cons, keysOrder, ← first, ← rest]
    exact Ordering.then_eq_eq

/-- The order of all keys puts first what precedes by the first key that decides. -/
theorem keysOrder_eq_lt (h : ∀ k ∈ keys, Compares view cmp items k) (ha : a ∈ items)
    (hb : b ∈ items) : keysOrder view cmp keys a b = .lt ↔ Precedes view keys a b := by
  induction keys with
  | nil => exact ⟨nofun, nofun⟩
  | cons k keys ih =>
    have before := keyOrder_eq_lt (h k List.mem_cons_self) ha hb
    have level := keyOrder_eq_eq (h k List.mem_cons_self) ha hb
    have rest := ih fun k hk => h k (List.mem_cons_of_mem _ hk)
    rw [keysOrder]
    refine Ordering.then_eq_lt.trans ⟨?_, ?_⟩
    · rintro (lt | ⟨eq, lt⟩)
      · exact .byKey (before.mp lt)
      · exact .afterTie (level.mp eq) (rest.mp lt)
    · rintro (lt | ⟨eq, lt⟩)
      · exact .inl (before.mpr lt)
      · exact .inr ⟨level.mpr eq, rest.mpr lt⟩

/-- What stands as the keys say is arranged by the comparisons that give the order of each key. -/
theorem isArranged_iff [∀ k, TransCmp (cmp k)] (h : ∀ k ∈ keys, Compares view cmp found k) :
    IsArranged view keys found items ↔ Arranged (keysOrder view cmp keys) found items := by
  have classes {a : α} (ha : a ∈ found) {l : List α} (sub : ∀ b ∈ l, b ∈ found) :
      (l.filter fun b => keysOrder view cmp keys a b == .eq) =
        l.filter fun b => decide (Ties view keys a b) :=
    List.filter_congr fun b hb => by
      rw [Bool.eq_iff_iff, beq_iff_eq, decide_eq_true_iff, keysOrder_eq_eq h ha (sub b hb)]
  have order {a b : α} (ha : a ∈ found) (hb : b ∈ found) :
      ¬Precedes view keys b a ↔ keysOrder view cmp keys a b ≠ .gt := by
    have swap : keysOrder view cmp keys b a = (keysOrder view cmp keys a b).swap :=
      OrientedCmp.eq_swap
    rw [← keysOrder_eq_lt h hb ha, swap, Ordering.swap_eq_lt]
  constructor
  · rintro ⟨perm, ordered, stable⟩
    have sub : ∀ b ∈ items, b ∈ found := fun b => perm.mem_iff.mp
    refine ⟨perm, ordered.imp_of_mem fun ha hb => (order (sub _ ha) (sub _ hb)).mp, ?_⟩
    intro a ha
    rw [classes ha sub, classes ha fun _ => id, stable a ha]
  · rintro ⟨perm, sorted, ties⟩
    have sub : ∀ b ∈ items, b ∈ found := fun b => perm.mem_iff.mp
    refine ⟨perm, sorted.imp_of_mem fun ha hb => (order (sub _ ha) (sub _ hb)).mpr, ?_⟩
    intro a ha
    rw [← classes ha sub, ← classes ha fun _ => id, ties a ha]

/-- The values that the items show under a key, as far as they have one. -/
def shown (view : α → Value) (k : SortKey) (items : List α) : List Value :=
  (items.map fun a => (view a).resolve k.field).filter fun v => !v.isNull

/-- Values that can be put in an order are compared by one for each key. -/
theorem exists_compares (h : ∀ k ∈ keys, Value.Orderable (shown view k items)) :
    ∃ cmp : SortKey → Value → Value → Ordering,
      (∀ k, TransCmp (cmp k)) ∧ ∀ k ∈ keys, Compares view cmp items k := by
  classical
  have each (k : SortKey) : ∃ cmp : Value → Value → Ordering, TransCmp cmp ∧
      (k ∈ keys → ∀ a ∈ shown view k items, ∀ b ∈ shown view k items,
        a.compare? b = some (cmp a b)) := by
    by_cases hk : k ∈ keys
    · obtain ⟨cmp, lawful, same⟩ := h k hk
      exact ⟨cmp, lawful, fun _ => same⟩
    · exact ⟨fun _ _ => .eq, { eq_swap := rfl, isLE_trans := fun _ _ => rfl },
        fun hk' => absurd hk' hk⟩
  choose cmp lawful same using each
  refine ⟨cmp, lawful, fun k hk a ha b hb na nb => same k hk _ ?_ _ ?_⟩
  · exact List.mem_filter.mpr ⟨List.mem_map_of_mem ha, by simp [na]⟩
  · exact List.mem_filter.mpr ⟨List.mem_map_of_mem hb, by simp [nb]⟩

/-! ## Windows and evaluation -/

/-- A window whose bounds are not negative drops the items before the offset and takes as many as
the limit says. -/
theorem window_eq (offset limit : Option Nat) (items : List α) :
    window (offset.map Int.ofNat) (limit.map Int.ofNat) items =
      (items.drop (offset.getD 0)).take (limit.getD items.length) := by
  have start : (offset.map Int.ofNat).getD 0 = Int.ofNat (offset.getD 0) := by
    cases offset <;> rfl
  have placed (n : Nat) : place items.length (Int.ofNat n) = min items.length n := by
    have counted : ¬(n : Int) < 0 := Int.not_lt.mpr (Int.natCast_nonneg n)
    simp [place, counted]
  have drop_min (m : Nat) : items.drop (min items.length m) = items.drop m := by
    rcases Nat.le_total items.length m with le | le
    · rw [Nat.min_eq_left le, List.drop_length, List.drop_eq_nil_of_le le]
    · rw [Nat.min_eq_right le]
  have take_min (m : Nat) : items.take (min items.length m) = items.take m := by
    rw [Nat.min_comm, ← List.take_take, List.take_length]
  unfold window
  rw [start]
  cases limit with
  | none =>
    simp only [Option.map_none, Option.getD_none, List.take_length, placed]
    rw [drop_min, List.take_of_length_le (by simp)]
  | some n =>
    have last : Int.ofNat (offset.getD 0) + Int.ofNat n = Int.ofNat (offset.getD 0 + n) := by simp
    simp only [Option.map_some, Option.getD_some, last, placed]
    rw [take_min]
    rcases Nat.le_total items.length (offset.getD 0) with past | within
    · rw [Nat.min_eq_left past, List.drop_eq_nil_of_le past, List.take_nil]
      exact List.drop_eq_nil_of_le (List.length_take_le' _ _)
    · rw [Nat.min_eq_right within, List.take_drop]

/-- Evaluation finds the candidates that meet the query, in their order. -/
theorem matching_eq (q : Query) (view : α → Value) (candidates : List α) :
    q.matching view candidates = candidates.filter fun c => decide (q.Meets (view c)) := by
  refine List.filter_congr fun c _ => ?_
  rw [Bool.eq_iff_iff, holds_iff, decide_eq_true_iff]

/-- Sorting neither adds items nor leaves any out. -/
theorem perm_of_arranged {keys : List SortKey} {items sorted : List α}
    (done : arranged view keys items = .ok sorted) : sorted.Perm items := by
  induction keys generalizing sorted with
  | nil =>
    cases done
    exact .refl _
  | cons k keys ih =>
    unfold arranged at done
    cases inner : arranged view keys items with
    | error e => rw [inner] at done; cases done
    | ok first =>
      rw [inner] at done
      dsimp only [sortedByKey] at done
      split at done
      · cases done
        exact (List.mergeSort_perm _ _).trans (ih inner)
      · cases done

/-- What evaluation finds is among the candidates. -/
theorem subset_of_evaluate {q : Query} {candidates : List α} {page : Counted α}
    (done : q.evaluate view candidates = .ok page) : page.items ⊆ candidates := by
  dsimp only [evaluate] at done
  cases inner : arranged view q.sort (q.matching view candidates) with
  | error e => rw [inner] at done; cases done
  | ok sorted =>
    rw [inner] at done
    cases done
    intro x hx
    have there : x ∈ sorted := List.mem_of_mem_take (List.mem_of_mem_drop hx)
    exact (List.mem_filter.mp ((perm_of_arranged inner).mem_iff.mp there)).1

/-- The page that evaluation gives once the matches are arranged. -/
theorem evaluate_arranged {q : Query} {candidates sorted : List α} {offset limit : Option Nat}
    (done : arranged view q.sort (q.matching view candidates) = .ok sorted)
    (hoffset : q.offset = offset.map Int.ofNat) (hlimit : q.limit = limit.map Int.ofNat) :
    q.evaluate view candidates = .ok ⟨(sorted.drop (offset.getD 0)).take (limit.getD sorted.length),
      (q.matching view candidates).length⟩ := by
  simp only [evaluate]
  rw [done, hoffset, hlimit, Except.map, window_eq]

/-- A query finds the matches, puts them in the one order that its keys declare, and cuts its
window out of them; the total counts the matches. A path that leads into a scalar finds nothing
there, so what may be asked of a scalar is no key and no condition of a query. -/
theorem evaluate_eq_window (q : Query) (offset limit : Option Nat) (view : α → Value)
    (candidates : List α)
    (orderable : ∀ k ∈ q.sort, Value.Orderable
      (shown view k (candidates.filter fun c => decide (q.Meets (view c))))) :
    ∃ items, IsArranged view q.sort (candidates.filter fun c => decide (q.Meets (view c))) items ∧
      (∀ other,
        IsArranged view q.sort (candidates.filter fun c => decide (q.Meets (view c))) other →
          other = items) ∧
      (q.windowed (offset.map Int.ofNat) (limit.map Int.ofNat)).evaluate view candidates =
        .ok ⟨(items.drop (offset.getD 0)).take (limit.getD items.length),
          (candidates.filter fun c => decide (q.Meets (view c))).length⟩ := by
  obtain ⟨cmp, lawful, compares⟩ := exists_compares orderable
  obtain ⟨items, done, sorted⟩ := arranged_ok compares
  refine ⟨items, (isArranged_iff compares).mpr sorted, fun other h => ?_, ?_⟩
  · exact ((isArranged_iff compares).mp h).unique sorted
  · rw [← matching_eq] at done ⊢
    exact evaluate_arranged (q := q.windowed (offset.map Int.ofNat) (limit.map Int.ofNat)) done
      rfl rfl

/-- Numbers in descending order with one missing, then texts: the page begins behind the school
without a number and tells the two schools with the same number apart by their names. -/
theorem evaluate_numberless_school :
    let school (name : String) (number : Value) : Value :=
      .table [("name", .text name), ("number", number)]
    let q : Query := ⟨[⟨.any, [⟨"name", .text "Hof"⟩, ⟨"name", .text "Aue"⟩]⟩],
      [⟨"number", .descending⟩, ⟨"name", .ascending⟩], none, none⟩
    let found := [school "Hof" (.whole 2), school "Aue" .null, school "Hof" (.whole 1),
      school "Aue" (.whole 2)]
    let candidates := school "Bad" (.whole 3) :: found
    (candidates.filter fun c => decide (q.Meets c)) = found ∧
      (∀ k ∈ q.sort, Value.Orderable (shown id k found)) ∧
      ∃ items, IsArranged id q.sort found items ∧
        (∀ other, IsArranged id q.sort found other → other = items) ∧
        (q.windowed (some 1) (some 2)).evaluate id candidates = .ok ⟨(items.drop 1).take 2, 4⟩ := by
  intro school q found candidates
  have names_eq (s t : String) : (Value.text s).compare? (.text t) = some (compare s t) :=
    @Value.compare?_of_scalar _ _ (.text s) (.text t) rfl rfl
  have numbers_eq (m n : Int) : (Value.whole m).compare? (.whole n) = some (compare m n) :=
    @Value.compare?_of_scalar _ _ (.whole m) (.whole n) rfl rfl
  have matches_eq : (candidates.filter fun c => decide (q.Meets (id c))) = found := by
    have other : q.holds (school "Bad" (.whole 3)) = false := by decide +kernel +zetaReduce
    have asked : ∀ c ∈ found, q.holds c = true := by decide +kernel +zetaReduce
    rw [← matching_eq]
    exact (List.filter_cons_of_neg (by simp [other])).trans (List.filter_eq_self.mpr asked)
  -- only two numbers occur, so whether a value is the greater one tells its place
  have numbers : Value.Orderable [.whole 2, .whole 1, .whole 2] :=
    Value.orderable_of_key (fun v => v.same (.whole 2)) (by simp [numbers_eq, Value.same]; decide)
  have names : Value.Orderable [.text "Hof", .text "Aue", .text "Hof", .text "Aue"] :=
    Value.orderable_of_key (fun v => v.text?.getD "") (by simp [names_eq, Value.text?])
  have orderable : ∀ k ∈ q.sort, Value.Orderable (shown id k found) := by
    rintro k (_ | ⟨_, _ | ⟨_, ⟨⟩⟩⟩)
    · exact numbers
    · exact names
  refine ⟨matches_eq, orderable, ?_⟩
  have := evaluate_eq_window q (some 1) (some 2) id candidates (by rwa [matches_eq])
  rw [matches_eq] at this
  exact this

end Query

end SchoolRegistry
