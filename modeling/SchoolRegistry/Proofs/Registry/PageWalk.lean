import Mathlib.Algebra.Order.Ring.Int
import SchoolRegistry.Proofs.Registry.LookUps
import SchoolRegistry.Proofs.Store.Memory
import SchoolRegistry.Proofs.Store.Running

/-!
# Walks through the pages of a listing

A client walks through a listing page by page: it asks for the first page, takes the size that this
page reports, and goes on by this size as long as the offset is below the total (`walk`,
`mem_following`). It visits every match once, in the order of the listing, and all pages tell the
same total and size (`walk_visits_once`). That holds for every listing, every filter and every store
in memory; the limits of pages and the size asked for, if any, must be positive, and nobody writes
meanwhile.

Each page is answered by a query of its own, which sorts the matches anew. The pages fit together
because the order that the sort keys declare, with ties as they stand on the shelf, is the only one
(`Query.IsArranged`), so that all of them are cut out of one list (`Listing.Serves`).
-/

namespace SchoolRegistry

/-! ## Listings -/

/-- A listing that is handed out in pages, with what it is asked for. -/
inductive Listed where
  | organisations (f : Organisations.Filter)
  /-- The organisations that one administers. -/
  | administered (id : String)
  | persons (f : Persons.Filter)
  | roles (f : Roles.Filter)

namespace Listed

/-- What is listed. -/
def collection : Listed → Collection
  | organisations _ => .organisations
  | administered _ => .organisations
  | persons _ => .persons
  | roles _ => .roles

/-- The criteria of the listing, of which some may be missing. -/
def criteria : Listed → Fields
  | organisations f => f.criteria
  | administered id => [("administriert_von", .text id)]
  | persons f => f.criteria
  | roles f => f.criteria

/-- The fields that the listing is ordered by. -/
def order : Listed → List String
  | organisations _ => ["kennung"]
  | administered _ => ["name"]
  | persons _ => ["familienname", "vorname"]
  | roles _ => ["name"]

/-- A page of the listing. -/
def page (limits : Option PageLimits) :
    (l : Listed) → Window → Service (Outcome (Page l.collection.Item))
  | organisations f, w => do
    let page ← Organisations.list limits f w
    pure (.ok page)
  | administered id, w => Organisations.administeredBy limits id w
  | persons f, w => do
    let page ← Persons.list limits f w
    pure (.ok page)
  | roles f, w => do
    let page ← Roles.list limits f w
    pure (.ok page)

/-- Whether the item meets every criterion that is not missing. -/
def accepts (l : Listed) (x : l.collection.Item) : Bool :=
  l.criteria.all fun k => k.2.isNull || ((Entity.toValue x).resolve k.1).same k.2

/-- The matches on the shelf. -/
def found (l : Listed) (m : Memory) : List l.collection.Item :=
  (m.shelves l.collection).filter l.accepts

/-- The sort keys of the listing. -/
def keys (l : Listed) : List SortKey := l.order.map fun field => ⟨field, .ascending⟩

/-- What a listing is asked of is stored: the organisation that administers, if there is one. -/
def Stored (m : Memory) : Listed → Prop
  | administered id => ∃ o ∈ m.shelves .organisations, Entity.id o = some id
  | _ => True

end Listed

/-! ## Walking -/

section Walk

variable {α : Type}

/-- The pages at the given offsets, up to the first refusal. -/
def pagesAt (fetch : Int → Service (Outcome (Page α))) :
    List Int → Service (Outcome (List (Page α)))
  | [] => pure (.ok [])
  | offset :: rest => do
    match ← fetch offset with
    | .error r => pure (.error r)
    | .ok page =>
      match ← pagesAt fetch rest with
      | .error r => pure (.error r)
      | .ok pages => pure (.ok (page :: pages))

/-- The multiples of the size, from the size on, that are below the total. -/
def following (total size : Int) : List Int :=
  ((List.range total.toNat).map fun k => ((k + 1 : Nat) : Int) * size).filter (· < total)

/-- If the size is positive, no multiple of it is left out. -/
theorem mem_following {total size offset : Int} (positive : 0 < size) :
    offset ∈ following total size ↔ offset < total ∧ ∃ k : Nat, offset = (k + 1 : Nat) * size := by
  rw [following, List.mem_filter, List.mem_map, decide_eq_true_iff, and_comm]
  refine and_congr_right fun below => ⟨?_, ?_⟩
  · rintro ⟨k, -, rfl⟩
    exact ⟨k, rfl⟩
  · rintro ⟨k, rfl⟩
    have early : ((k + 1 : Nat) : Int) ≤ (k + 1 : Nat) * size :=
      le_mul_of_one_le_right (Int.natCast_nonneg _) positive
    exact ⟨k, List.mem_range.mpr (by omega), rfl⟩

/-- The first page and then, by the size that it reports, all that follow. -/
def walk (fetch : Int → Service (Outcome (Page α))) : Service (Outcome (List (Page α))) := do
  match ← fetch 0 with
  | .error r => pure (.error r)
  | .ok first =>
    match ← pagesAt fetch (following first.total first.limit) with
    | .error r => pure (.error r)
    | .ok pages => pure (.ok (first :: pages))

/-- The page of so many items that begins at an offset. -/
def pageOf (items : List α) (size : Nat) (offset : Int) : Page α :=
  ⟨(items.drop offset.toNat).take size, items.length, offset, size⟩

/-- Fetching changes nothing and gives the pages of one list. -/
def Serves {σ : Type} (e : Engine σ) (s : σ) (fetch : Int → Service (Outcome (Page α)))
    (items : List α) (size : Nat) : Prop :=
  ∀ offset, 0 ≤ offset → e.Ends (fetch offset) s fun x s' =>
    x = .ok (.ok (pageOf items size offset)) ∧ s' = s

variable {σ : Type} {e : Engine σ} {s : σ} {fetch : Int → Service (Outcome (Page α))}
  {items : List α} {size : Nat}

/-- Asking for pages at offsets that are not negative answers the pages there and changes nothing.
-/
theorem Serves.ends_pagesAt (serves : Serves e s fetch items size) {offsets : List Int}
    (positive : ∀ offset ∈ offsets, 0 ≤ offset) :
    e.Ends (pagesAt fetch offsets) s fun x s' =>
      x = .ok (.ok (offsets.map (pageOf items size))) ∧ s' = s := by
  induction offsets with
  | nil => exact ⟨rfl, rfl⟩
  | cons offset rest ih =>
    rw [pagesAt]
    apply Engine.ends_bind.mpr
    apply (serves offset (positive offset List.mem_cons_self)).imp
    rintro _ s' ⟨rfl, rfl⟩
    apply Engine.ends_bind.mpr
    apply (ih fun k there => positive k (List.mem_cons_of_mem _ there)).imp
    rintro _ s' ⟨rfl, rfl⟩
    exact ⟨rfl, rfl⟩

/-- The offsets that follow lie between zero and the total. -/
theorem bounds_of_mem_following {total : Int} :
    ∀ offset ∈ following total size, 0 ≤ offset ∧ offset < total := by
  intro offset there
  obtain ⟨multiple, below⟩ := List.mem_filter.mp there
  obtain ⟨k, -, rfl⟩ := List.mem_map.mp multiple
  exact ⟨Int.mul_nonneg (Int.natCast_nonneg _) (Int.natCast_nonneg _), by simpa using below⟩

/-- The walk answers the first page and all that follow, and changes nothing. -/
theorem Serves.ends_walk (serves : Serves e s fetch items size) :
    e.Ends (walk fetch) s fun x s' =>
      x = .ok (.ok ((0 :: following items.length size).map (pageOf items size))) ∧ s' = s := by
  rw [walk]
  apply Engine.ends_bind.mpr
  apply (serves 0 (Int.le_refl 0)).imp
  rintro _ s' ⟨rfl, rfl⟩
  apply Engine.ends_bind.mpr
  apply (serves.ends_pagesAt fun k there => (bounds_of_mem_following k there).1).imp
  rintro _ s' ⟨rfl, rfl⟩
  exact ⟨rfl, rfl⟩

/-! ## Pages of one list -/

/-- The offsets that follow, as natural numbers. -/
theorem following_eq (n size : Nat) : following n size =
    (((List.range n).map fun k => (k + 1) * size).filter (· < n)).map Int.ofNat := by
  rw [following, List.filter_map, List.filter_map, List.map_map, Int.toNat_natCast]
  have within : ((fun offset : Int => decide (offset < n)) ∘
      fun k : Nat => ((k + 1 : Nat) : Int) * size) =
        (fun offset : Nat => decide (offset < n)) ∘ fun k => (k + 1) * size :=
    funext fun k => decide_eq_decide.mpr (by simp only [← Int.natCast_mul, Int.ofNat_lt])
  rw [within]
  exact List.map_congr_left fun k _ => (Int.natCast_mul (k + 1) size).symm

/-- The windows of one size, as many as begin inside the list, make up the front of it. -/
theorem take_append_windows (items : List α) (size n : Nat) :
    items.take size ++ (((List.range n).map fun k => (k + 1) * size).filter
      (· < items.length)).flatMap (fun k => (items.drop k).take size) =
        items.take ((n + 1) * size) := by
  induction n with
  | zero => simp
  | succ n ih =>
    rw [List.range_succ, List.map_append, List.filter_append, List.flatMap_append,
      ← List.append_assoc, ih, List.map_singleton]
    by_cases within : (n + 1) * size < items.length
    · rw [List.filter_cons_of_pos (by simpa using within), List.filter_nil,
        List.flatMap_singleton, Nat.succ_mul (n + 1), List.take_add]
    · rw [List.filter_cons_of_neg (by simpa using within), List.filter_nil, List.flatMap_nil,
        List.append_nil, List.take_of_length_le (by omega),
        List.take_of_length_le (by rw [Nat.succ_mul]; omega)]

/-- The pages make up the list, if the size is positive or the pages have no bound. -/
theorem flatMap_pages (fits : items.length ≤ (items.length + 1) * size) :
    ((0 :: following items.length size).map (pageOf items size)).flatMap Page.items = items := by
  have windows := take_append_windows items size items.length
  rw [List.take_of_length_le fits] at windows
  rw [following_eq]
  simpa [List.flatMap_map, pageOf] using windows

/-- The pages of a walk, by the list that they are cut out of and their size. -/
structure Covers (pages : List (Page α)) (items : List α) (size : Int) : Prop where
  offsets : pages.map Page.offset = 0 :: following items.length size
  /-- Every item is on one page, and the pages follow the list. -/
  together : pages.flatMap Page.items = items
  alike : ∀ p ∈ pages, p.total = items.length ∧ p.limit = size
  filled : ∀ p ∈ pages, (p.itemsCount : Int) = min size (items.length - p.offset)

/-- The pages of the walk cover the items without a gap and without an overlap. -/
theorem covers_pages (fits : items.length ≤ (items.length + 1) * size) :
    Covers ((0 :: following items.length size).map (pageOf items size)) items size where
  offsets := by
    rw [List.map_map]
    exact List.map_id _
  together := flatMap_pages fits
  alike := by
    intro p there
    obtain ⟨offset, -, rfl⟩ := List.mem_map.mp there
    exact ⟨rfl, rfl⟩
  filled := by
    intro p there
    obtain ⟨offset, visited, rfl⟩ := List.mem_map.mp there
    have bounds : 0 ≤ offset ∧ offset ≤ items.length := by
      rcases List.mem_cons.mp visited with rfl | later
      · exact ⟨Int.le_refl 0, Int.natCast_nonneg _⟩
      · exact (bounds_of_mem_following offset later).imp_right Int.le_of_lt
    simp only [Page.itemsCount, pageOf, List.length_take, List.length_drop]
    omega

end Walk

/-! ## What a listing asks for -/

/-- An item meets the criteria that are joined in one query if it meets each that is not missing. -/
theorem Query.holds_restrict_all (criteria : Fields) (v : Value) :
    (all.restrict .all criteria).holds v =
      criteria.all fun k => k.2.isNull || (v.resolve k.1).same k.2 := by
  have conditions : (criteria.all fun k => k.2.isNull || (v.resolve k.1).same k.2) =
      (conditionsOf criteria).all fun c => c.holds v := by
    rw [conditionsOf, List.all_map, List.all_filter]
    simp [Condition.holds]
  rw [conditions, restrict]
  split
  · next nothing => rw [nothing]; rfl
  · simp [holds, all, ConditionGroup.holds]

/-- Setting a window with bounds that are not negative succeeds. -/
theorem Query.paged_ok (q : Query) (offset limit : Option Nat) :
    q.paged (offset.map Int.ofNat) (limit.map Int.ofNat) =
      .ok (q.windowed (offset.map Int.ofNat) (limit.map Int.ofNat)) := by
  have within (name : String) (bound : Option Nat) :
      boundOk name (bound.map Int.ofNat) = .ok () := by
    cases bound with
    | none => rfl
    | some n =>
      rw [Option.map_some, Int.ofNat_eq_natCast, boundOk,
        if_neg (Int.not_lt.mpr (Int.natCast_nonneg n))]
  rw [paged, within, within]
  rfl

namespace Listing

/-- The query of a listing has the criteria and then one ascending key for each field. -/
theorem query_eq (criteria : Fields) (order : List String) :
    query criteria order = { Query.all.restrict .all criteria with
      sort := (Query.all.restrict .all criteria).sort ++ order.map (⟨·, .ascending⟩) } := by
  rw [query]
  generalize Query.all.restrict .all criteria = q
  induction order generalizing q with
  | nil => simp
  | cons field order ih =>
    rw [List.foldl_cons, ih]
    simp [Query.sortedBy]

/-- The sort keys of a listing are its order, ascending. -/
theorem sort_query (criteria : Fields) (order : List String) :
    (query criteria order).sort = order.map (⟨·, .ascending⟩) := by
  have unsorted : (Query.all.restrict .all criteria).sort = [] := by
    rw [Query.restrict]
    split <;> rfl
  rw [query_eq, unsorted, List.nil_append]

/-- A listing matches what meets every criterion that has a value. -/
theorem holds_query (criteria : Fields) (order : List String) (v : Value) :
    (query criteria order).holds v =
      criteria.all fun k => k.2.isNull || (v.resolve k.1).same k.2 := by
  rw [query_eq]
  exact Query.holds_restrict_all criteria v

variable {c : Collection} {criteria : Fields} {order : List String} {supply : Supply} {m : Memory}

open Query (IsArranged arranged_ok isArranged_iff)
open Statement (textOrder compares_textOrder)

/-- The matches stand in the order of a listing, which is the only one, and its pages are cut out
of them. -/
theorem ends_page (sorts : ∀ field ∈ order, c.IsPlain field) {found : List c.Item}
    (matching : found = (m.shelves c).filter fun x =>
      criteria.all fun k => k.2.isNull || ((Entity.toValue x).resolve k.1).same k.2) :
    ∃ items, IsArranged Entity.toValue (order.map (⟨·, .ascending⟩)) found items ∧
      (∀ other, IsArranged Entity.toValue (order.map (⟨·, .ascending⟩)) found other →
        other = items) ∧
      ∀ {limits : Option PageLimits} {limit : Option Int} {size : Option Nat},
        PageLimits.effective limits limit = size.map Int.ofNat → ∀ offset : Option Nat,
          (Memory.engine supply).Ends
            (page c limits criteria order ⟨offset.map Int.ofNat, limit⟩) m fun x m' =>
              x = .ok (pageOf items (size.getD items.length) (offset.getD 0 : Nat)) ∧ m' = m := by
  have compares : ∀ k ∈ order.map (⟨·, .ascending⟩),
      Query.Compares Entity.toValue textOrder found k := by
    intro k hk
    obtain ⟨field, hfield, rfl⟩ := List.mem_map.mp hk
    exact compares_textOrder (sorts field hfield) found
  obtain ⟨items, done, sorted⟩ := arranged_ok compares
  refine ⟨items, (isArranged_iff compares).mpr sorted, ?_, ?_⟩
  · intro other arranged
    exact ((isArranged_iff compares).mp arranged).unique sorted
  intro limits limit size sized offset
  let q := (query criteria order).windowed (offset.map Int.ofNat) (size.map Int.ofNat)
  have met : q.matching Entity.toValue (m.shelves c) = found := by
    rw [matching]
    exact List.filter_congr fun x _ => holds_query criteria order (Entity.toValue x)
  have inOrder : Query.arranged Entity.toValue q.sort (q.matching Entity.toValue (m.shelves c)) =
      .ok items := by
    rw [met, ← done]
    exact congrArg (Query.arranged Entity.toValue · found) (sort_query criteria order)
  have starts : q.offset = offset.map Int.ofNat := rfl
  have ends : q.limit = size.map Int.ofNat := rfl
  have counted := Query.evaluate_arranged inOrder starts ends
  have answered : (Memory.engine supply).handler.answer (.query c q) m =
      (.ok ⟨(items.drop (offset.getD 0)).take (size.getD items.length), found.length⟩, m) := by
    change (q.evaluate Entity.toValue (m.shelves c), m) = _
    rw [counted, met]
  rw [page, sized]
  dsimp only
  rw [Query.paged_ok]
  apply Engine.ends_bind.mpr
  apply Engine.ends_ask.mpr
  rw [answered]
  refine ⟨congrArg (Except.ok ·) ?_, rfl⟩
  rw [Page.ofCounted, pageOf, sorted.perm.length_eq]
  cases size <;> cases offset <;> simp

/-- An item that is stored is found by its identifier. -/
theorem ends_byId {id : String} {item : c.Item} (stored : item ∈ m.shelves c)
    (its : Entity.id item = some id) :
    (Memory.engine supply).Ends (byId c id) m fun x m' => (∃ o, x = .ok (.ok o)) ∧ m' = m := by
  have there : (Memory.find? id (m.shelves c)).isSome :=
    List.find?_isSome.mpr ⟨item, stored, Memory.hasId_iff.mpr its⟩
  obtain ⟨o, found⟩ := Option.isSome_iff_exists.mp there
  have answered : (Memory.engine supply).handler.answer (.get c id) m = (.ok (some o), m) :=
    congrArg (fun x => (Except.ok x, m)) found
  rw [byId]
  apply Engine.ends_bind.mpr
  apply Engine.ends_ask.mpr
  rw [answered]
  exact ⟨⟨o, rfl⟩, rfl⟩

end Listing

/-- If neither the limits nor the request allow an empty page, the size that results is positive. -/
theorem PageLimits.exists_effective {limits : Option PageLimits} {limit : Option Int}
    (bounded : ∀ b ∈ limits, 1 ≤ b.greatest ∧ ∀ n ∈ b.usual, 1 ≤ n)
    (positive : ∀ n ∈ limit, 1 ≤ n) :
    ∃ size : Option Nat, effective limits limit = size.map Int.ofNat ∧ ∀ n ∈ size, 0 < n := by
  have least : ∀ n ∈ effective limits limit, 1 ≤ n := by
    intro n there
    cases limits with
    | none => exact positive n there
    | some b =>
      obtain ⟨greatest, usual⟩ := bounded b rfl
      obtain ⟨asked, chosen, rfl⟩ := Option.map_eq_some_iff.mp there
      have : 1 ≤ asked := by
        rcases Option.or_eq_some_iff.mp chosen with given | ⟨-, standard⟩
        · exact positive asked given
        · exact usual asked standard
      omega
  cases size : effective limits limit with
  | none => exact ⟨none, rfl, nofun⟩
  | some n =>
    have := least n size
    refine ⟨some n.toNat, congrArg some (Int.toNat_of_nonneg (by omega)).symm, ?_⟩
    rintro _ ⟨⟩
    omega

namespace Listed

/-- Listings are ordered by plain fields. -/
theorem isPlain_order (l : Listed) : ∀ field ∈ l.order, l.collection.IsPlain field := by
  intro field there
  cases l with
  | organisations f => exact Organisations.isPlain_field field (by simp_all [order])
  | administered id => exact Organisations.isPlain_field field (by simp_all [order])
  | persons f => exact Persons.isPlain_field field (by simp_all [order]; tauto)
  | roles f => exact Roles.isPlain_field field (by simp_all [order])

/-- The pages of a listing are those of its matches in its order. -/
theorem ends_window (l : Listed) (m : Memory) (supply : Supply) (stored : l.Stored m) :
    ∃ items, Query.IsArranged Entity.toValue l.keys (l.found m) items ∧
      (∀ other, Query.IsArranged Entity.toValue l.keys (l.found m) other → other = items) ∧
      ∀ {limits : Option PageLimits} {limit : Option Int} {size : Option Nat},
        PageLimits.effective limits limit = size.map Int.ofNat → ∀ offset : Option Nat,
          (Memory.engine supply).Ends (l.page limits ⟨offset.map Int.ofNat, limit⟩) m fun x m' =>
            x = .ok (.ok (pageOf items (size.getD items.length) (offset.getD 0 : Nat))) ∧
              m' = m := by
  obtain ⟨items, arranged, only, pages⟩ :=
    @Listing.ends_page l.collection l.criteria l.order supply m l.isPlain_order (l.found m) rfl
  refine ⟨items, arranged, only, fun {limits limit size} sized offset => ?_⟩
  have fetched := pages sized offset
  have answered : (Memory.engine supply).Ends (do
      let page ← Listing.page l.collection limits l.criteria l.order ⟨offset.map Int.ofNat, limit⟩
      pure (.ok page) : Service (Outcome (Page l.collection.Item))) m fun x m' =>
        x = .ok (.ok (pageOf items (size.getD items.length) (offset.getD 0 : Nat))) ∧ m' = m := by
    apply Engine.ends_bind.mpr
    apply fetched.imp
    rintro _ m' ⟨rfl, rfl⟩
    exact ⟨rfl, rfl⟩
  cases l with
  | organisations f => exact answered
  | persons f => exact answered
  | roles f => exact answered
  | administered id =>
    obtain ⟨o, there, its⟩ := stored
    apply Engine.ends_bind.mpr
    apply (Listing.ends_byId there its).imp
    rintro _ m' ⟨⟨o, rfl⟩, rfl⟩
    exact answered

/-- Pages that begin at given offsets are all cut out of one list. -/
theorem ends_page (l : Listed) (m : Memory) (supply : Supply) (stored : l.Stored m) :
    ∃ items, Query.IsArranged Entity.toValue l.keys (l.found m) items ∧
      (∀ other, Query.IsArranged Entity.toValue l.keys (l.found m) other → other = items) ∧
      ∀ {limits : Option PageLimits} {limit : Option Int} {size : Option Nat},
        PageLimits.effective limits limit = size.map Int.ofNat →
          Serves (Memory.engine supply) m (fun k => l.page limits ⟨some k, limit⟩) items
            (size.getD items.length) := by
  obtain ⟨items, arranged, only, pages⟩ := l.ends_window m supply stored
  refine ⟨items, arranged, only, fun {limits limit size} sized offset nonneg => ?_⟩
  obtain ⟨start, rfl⟩ := Int.eq_ofNat_of_zero_le nonneg
  exact pages sized (some start)

/-- A walk through the pages of a listing visits every match once, in the order of the listing. -/
theorem walk_visits_once (l : Listed) (m : Memory) (supply : Supply) (stored : l.Stored m)
    {limits : Option PageLimits} (bounded : ∀ b ∈ limits, 1 ≤ b.greatest ∧ ∀ n ∈ b.usual, 1 ≤ n)
    {limit : Option Int} (positive : ∀ n ∈ limit, 1 ≤ n) :
    ∃ items pages, Query.IsArranged Entity.toValue l.keys (l.found m) items ∧
      (∀ other, Query.IsArranged Entity.toValue l.keys (l.found m) other → other = items) ∧
      Covers pages items ((PageLimits.effective limits limit).getD items.length) ∧
      (Memory.engine supply).Ends (walk fun k => l.page limits ⟨some k, limit⟩) m fun x m' =>
        x = .ok (.ok pages) ∧ m' = m := by
  obtain ⟨items, arranged, only, serves⟩ := l.ends_page m supply stored
  obtain ⟨size, sized, nonempty⟩ := PageLimits.exists_effective bounded positive
  have fits : items.length ≤ (items.length + 1) * size.getD items.length := by
    cases size with
    | none => exact Nat.le_mul_of_pos_left _ (Nat.succ_pos _)
    | some n => exact (Nat.le_succ _).trans (Nat.le_mul_of_pos_right _ (nonempty n rfl))
  have same : (PageLimits.effective limits limit).getD items.length =
      (size.getD items.length : Int) := by
    rw [sized]
    cases size <;> rfl
  refine ⟨items, _, arranged, only, ?_, (serves sized).ends_walk⟩
  rw [same]
  exact covers_pages fits

/-- A school with three classes. -/
def schoolWithClasses : Memory :=
  { Memory.empty [] with
    shelves := Shelving.put .organisations (
      { Organisation.blank with id := some "school" } ::
        ["c", "a", "b"].map fun name => { Organisation.blank with
          id := some name, name := some name, administeredBy := some "school" })
      .empty }

/-- Asked for five at a time, the three classes of a school come on two pages if a page holds no
more than two. -/
theorem walk_visits_once_classes :
    (administered "school").Stored schoolWithClasses ∧
      (∀ b ∈ some (PageLimits.mk none 2), 1 ≤ b.greatest ∧ ∀ n ∈ b.usual, 1 ≤ n) ∧
      (∀ n ∈ some (5 : Int), 1 ≤ n) ∧
      ∃ pages, (Memory.engine (.counting Supply.usualStart)).Ends
          (walk fun k => (administered "school").page (some ⟨none, 2⟩) ⟨some k, some 5⟩)
          schoolWithClasses (fun x m' => x = .ok (.ok pages) ∧ m' = schoolWithClasses) ∧
        pages.map Page.offset = [0, 2] ∧
        (pages.flatMap Page.items).Perm ((administered "school").found schoolWithClasses) := by
  have stored : (administered "school").Stored schoolWithClasses :=
    ⟨{ Organisation.blank with id := some "school" }, List.mem_cons_self, rfl⟩
  have bounded : ∀ b ∈ some (PageLimits.mk none 2), 1 ≤ b.greatest ∧ ∀ n ∈ b.usual, 1 ≤ n := by
    rintro _ ⟨⟩
    exact ⟨by decide, nofun⟩
  have positive : ∀ n ∈ some (5 : Int), 1 ≤ n := by
    rintro _ ⟨⟩
    decide
  obtain ⟨items, pages, arranged, -, covers, ends⟩ :=
    walk_visits_once (administered "school") schoolWithClasses (.counting Supply.usualStart)
      stored bounded positive
  have three : items.length = 3 := arranged.members.length_eq.trans (by decide +kernel)
  refine ⟨stored, bounded, positive, pages, ends, ?_, ?_⟩
  · rw [covers.offsets, three]
    decide
  · rw [covers.together]
    exact arranged.members

end Listed

end SchoolRegistry
