import SchoolRegistry.Proofs.Relational.Recall
import SchoolRegistry.Proofs.Relational.Refinement
import SchoolRegistry.Proofs.Store.Memory
import SchoolRegistry.Relational.Database

/-!
# A database that mirrors a store in memory

A database mirrors a store in memory if its tables hold the rows of the items on the shelves, in
the same order, and its session takes statements.

Getting is answered with the item on the shelf, whose stamps lose their offsets (`Mirrors.get`);
deleting is answered alike (`Mirrors.delete`). Saving is answered alike exactly if the item is one
to be `SavedAlike`, and then the stores mirror each other again (`Mirrors.save`). Savepoints can be
set and kept in both (`Mirrors.setSavepoint`, `Mirrors.keepSavepoint`); undoing one is not settled
here.
-/

namespace SchoolRegistry

/-! ## Settled items -/

/-- The entity has all that a store assigns, at universal time. -/
structure Entity.Settled {σ : Type} [Entity σ] (x : σ) : Prop where
  identified : ∃ id, Entity.id x = some id ∧ id ≠ ""
  created : ∃ wall, (Entity.header x).createdAt = some (.utc wall)
  changed : ∃ wall, (Entity.header x).updatedAt = some (.utc wall)

namespace Collection

variable {c : Collection}

/-- The row of an item has its identifier. -/
theorem text?_id (x : c.Item) : ((c.toRow x).value "id").text? = Entity.id x := by
  have there : ⟨"id", .varchar 36, true⟩ ∈ c.table.columns := by cases c <;> decide
  rw [c.toRow_value x there, c.resolve_id]
  cases Entity.id x <;> rfl

/-- An identifier finds the row of an item exactly if it finds the item. -/
theorem hasId_toRow (id : String) (x : c.Item) : Row.hasId id (c.toRow x) = Memory.hasId id x := by
  rw [Row.hasId, text?_id, Memory.hasId]

/-- The row of an item has the time of its creation as it is recalled. -/
theorem createdAtOf_toRow (x : c.Item) :
    createdAtOf (c.toRow x) = (Entity.header x).createdAt.map Stamp.recalled := by
  have shown : (c.toRow x).value "created_at" =
      (Codec.stamp?.write (Entity.header x).createdAt).stored.kept := by cases c <;> rfl
  rw [createdAtOf, shown]
  cases (Entity.header x).createdAt <;> rfl

/-! ## Clashes -/

/-- Whether two items cannot be in the table together, whatever their identifiers are. -/
def clash (c : Collection) (a b : c.Item) : Bool :=
  c.table.unique.any fun names => (c.toRow a).sharesKey names (c.toRow b)

/-- Rows clash by the identifiers of the items or by other unique values. -/
theorem clashes_toRow (a b : c.Item) : c.table.clashes (c.toRow a) (c.toRow b) =
    ((Entity.id a).any (fun id => Entity.id b == some id) || c.clash a b) := by
  unfold Table.clashes Table.keys clash
  rw [List.any_cons]
  congr 1
  simp only [Row.sharesKey, List.all_cons, List.all_nil, Bool.and_true, text?_id]
  cases Entity.id a <;> cases Entity.id b <;> simp [Bool.beq_comm]

theorem clash_organisations (a b : Organisation) : clash .organisations a b = false := rfl

theorem clash_roles (a b : Role) : clash .roles a b = false := rfl

/-- Persons cannot have the same referrer; any number of them has none. -/
theorem clash_persons {a b : Person} : clash .persons a b = true ↔
    ∃ referrer, a.referrer = some referrer ∧ b.referrer = some referrer := by
  have shown (p : Person) : ((toRow .persons p).value "referrer").text? = p.referrer := by
    have kept : (toRow .persons p).value "referrer" =
      (Codec.text?.write p.referrer).stored.kept := rfl
    rw [kept]
    cases p.referrer <;> rfl
  have one : clash .persons a b = Row.sharesKey ["referrer"] (toRow .persons a)
      (toRow .persons b) := Bool.or_false _
  simp only [one, Row.sharesKey, List.all_cons, List.all_nil, Bool.and_true, shown]
  cases ha : a.referrer with
  | none => simp
  | some s => cases b.referrer <;> simp [eq_comm (a := s)]

/-- Assignments cannot have the same key. -/
theorem clash_assignments {a b : Assignment} : clash .assignments a b = true ↔ a.key = b.key := by
  have same : clash .assignments a b = ((a.personId == b.personId &&
      (a.organisationId == b.organisationId && (a.roleId == b.roleId && true))) || false) := rfl
  rw [same]
  simp [Assignment.key]

end Collection

/-! ## Mirrored stores -/

/-- The session takes statements, and the tables hold the rows of the items on the shelves. -/
structure Mirrors (m : Memory) (db : Database) : Prop where
  isOpen : db.work.isOpen = true
  live : ∀ p ∈ db.work.state.savepoints, p.health = .live
  unbroken : db.work.state.broken = false
  waiting : db.work.state.waiting = []
  drawn : db.drawn = m.drawn
  rows : ∀ c, db.work.state.current c = (m.shelves c).map c.toRow
  keyed : ∀ c, Memory.Keyed (m.shelves c)

namespace Mirrors

variable {supply : Supply} {m : Memory} {db : Database} {c : Collection} {id : String}

theorem health (h : Mirrors m db) : db.work.state.health = .live := by
  unfold Session.health
  cases saved : db.work.state.savepoints with
  | nil => simp [h.unbroken]
  | cons p ps => exact h.live p (saved ▸ List.mem_cons_self)

theorem flush (h : Mirrors m db) : db.work.state.flush = (true, db.work.state) := by
  rw [Session.flush, h.waiting, Session.insertAll]
  exact congrArg (Prod.mk true) (by rw [← h.waiting])

theorem prepare (h : Mirrors m db) : db.work.state.prepare = (true, db.work.state) := by
  rw [Session.prepare, h.health]
  exact h.flush

/-- A statement is made in the session of a mirror. -/
theorem inSession_prepared {α : Type} (h : Mirrors m db) (failed : StorageFailure)
    (use : Session → Except Failure α × Session) :
    db.inSession (Database.prepared failed use) =
      ((use db.work.state).1, db.withSession (use db.work.state).2) := by
  have ready : db.work.needsSession = .ok () := if_pos h.isOpen
  rw [Database.inSession, ready]
  simp only [Database.prepared, h.prepare, if_true]

/-- The row under an identifier is the row of the item under it. -/
theorem row?_eq (h : Mirrors m db) (c : Collection) (id : String) :
    db.work.state.current.row? c id = (Memory.find? id (m.shelves c)).map c.toRow := by
  have same : (Row.hasId id ∘ c.toRow) = Memory.hasId id := funext fun x => c.hasId_toRow id x
  rw [Tables.row?, h.rows, List.find?_map, same]
  rfl

/-! ### Getting and deleting -/

/-- Getting finds the item on the shelf, with its stamps as columns give them back. -/
theorem get (h : Mirrors m db) (c : Collection) (id : String) :
    Database.answer supply (.get c id) db =
      (.ok ((Memory.find? id (m.shelves c)).map Entity.recalled), db) := by
  have found : Database.find c id db.work.state =
      .ok ((Memory.find? id (m.shelves c)).map Entity.recalled) := by
    rw [Database.find, h.row?_eq]
    cases Memory.find? id (m.shelves c) with
    | none => rfl
    | some x => exact congrArg (Except.map some) (c.ofRow_toRow x)
  rw [Database.answer, h.inSession_prepared, found]
  rfl

/-- Getting is answered alike if the items on the shelf come back from rows as they are. -/
theorem get_alike (h : Mirrors m db) (back : ∀ x ∈ m.shelves c, Entity.recalled x = x)
    (supply : Supply) (id : String) :
    Database.answer supply (.get c id) db = ((Memory.answer supply (.get c id) m).1, db) := by
  rw [h.get c id]
  cases found : Memory.find? id (m.shelves c) with
  | none => simp [Memory.answer, found]
  | some x =>
    have same := back x (List.mem_of_find?_eq_some found)
    simp [Memory.answer, found, same]

/-- The mirror after one shelf and its table were changed alike. -/
theorem put (h : Mirrors m db) (drawn : Drawn) {items : List c.Item}
    (keyed : Memory.Keyed items) :
    Mirrors { m with drawn := drawn, shelves := m.shelves.put c items }
      (Database.withSession
        { db.work.state with current := db.work.state.current.put c (items.map c.toRow) }
        { db with drawn := drawn }) where
  isOpen := h.isOpen
  live := h.live
  unbroken := h.unbroken
  waiting := h.waiting
  drawn := rfl
  rows c' := by
    show Tables.put c _ _ c' = _
    by_cases same : c' = c
    · subst same
      simp [Tables.put]
    · simp [Tables.put, same, h.rows c']
  keyed c' := by
    by_cases same : c' = c
    · subst same
      simpa using keyed
    · simpa [same] using h.keyed c'

/-- Mirrored stores answer a removal alike and stay mirrored. -/
theorem delete (h : Mirrors m db) (supply : Supply) (c : Collection) (id : String) :
    (Database.answer supply (.delete c id) db).1 = (Memory.answer supply (.delete c id) m).1 ∧
      Mirrors (Memory.answer supply (.delete c id) m).2
        (Database.answer supply (.delete c id) db).2 := by
  have answered : Database.answer supply (.delete c id) db =
      (.ok (db.work.state.current.row? c id).isSome,
        db.withSession (db.work.state.remove c id)) := by
    rw [Database.answer, h.inSession_prepared]
  have removed : db.work.state.current.remove c id =
      db.work.state.current.put c ((Memory.remove id (m.shelves c)).map c.toRow) := by
    rw [Tables.remove, h.rows, List.filter_map]
    refine congrArg (fun items : List c.Item => db.work.state.current.put c (items.map c.toRow)) ?_
    exact List.filter_congr fun x _ => by rw [Function.comp_apply, c.hasId_toRow]
  rw [answered]
  refine ⟨?_, ?_⟩
  · rw [h.row?_eq, Option.isSome_map]
    rfl
  · rw [Session.remove, removed]
    have keyed : Memory.Keyed (Memory.remove id (m.shelves c)) := (h.keyed c).remove
    have mirrors := h.put m.drawn keyed
    rwa [show { db with drawn := m.drawn } = db by rw [← h.drawn]] at mirrors

end Mirrors

/-! ## Saving -/

/-- What an item must be for both stores to answer its save alike. A new item is created now, a
known one keeps the time of its creation, and one that brings an identifier of its own brings that
time too. No other stored item has the same unique values. -/
inductive SavedAlike (supply : Supply) (m : Memory) (c : Collection) (item : c.Item) : Prop
  | new : Entity.id item = none →
    ((Entity.header item).createdAt = none ∨
      (Entity.header item).createdAt = some (supply.time m.drawn.times)) →
    (∀ x ∈ m.shelves c, Entity.id x ≠ some (supply.id c (m.drawn.ids c)) ∧
      c.clash item x = false) → SavedAlike supply m c item
  | known {id : String} {x : c.Item} : Entity.id item = some id → x ∈ m.shelves c →
    Entity.id x = some id → (Entity.header item).createdAt = (Entity.header x).createdAt →
    (∀ y ∈ m.shelves c, Entity.id y ≠ some id → c.clash item y = false) →
    SavedAlike supply m c item
  | brought {id : String} {stamp : Stamp} : Entity.id item = some id → id ≠ "" →
    (Entity.header item).createdAt = some stamp →
    (∀ x ∈ m.shelves c, Entity.id x ≠ some id ∧ c.clash item x = false) →
    SavedAlike supply m c item

section SavedAlike

variable {supply : Supply} {m : Memory} {c : Collection} {item x : c.Item} {id : String}

/-- For an item without identifier: it is created now, and what is issued is free. -/
theorem savedAlike_of_new (unsaved : Entity.id item = none) : SavedAlike supply m c item ↔
    ((Entity.header item).createdAt = none ∨
      (Entity.header item).createdAt = some (supply.time m.drawn.times)) ∧
    ∀ x ∈ m.shelves c, Entity.id x ≠ some (supply.id c (m.drawn.ids c)) ∧
      c.clash item x = false := by
  refine ⟨?_, fun ⟨created, apart⟩ => .new unsaved created apart⟩
  rintro (⟨-, created, apart⟩ | ⟨given, -⟩ | ⟨given, -⟩)
  · exact ⟨created, apart⟩
  · rw [unsaved] at given; cases given
  · rw [unsaved] at given; cases given

/-- For an item that is stored: it keeps the time of its creation. -/
theorem savedAlike_of_known (keyed : Memory.Keyed (m.shelves c)) (given : Entity.id item = some id)
    (there : x ∈ m.shelves c) (known : Entity.id x = some id) : SavedAlike supply m c item ↔
    (Entity.header item).createdAt = (Entity.header x).createdAt ∧
    ∀ y ∈ m.shelves c, Entity.id y ≠ some id → c.clash item y = false := by
  refine ⟨?_, fun ⟨created, apart⟩ => .known given there known created apart⟩
  rintro (⟨unsaved, -⟩ | ⟨given', there', known', created, apart⟩ | ⟨given', -, -, apart⟩)
  · rw [given] at unsaved; cases unsaved
  · obtain rfl := Option.some.inj (given.symm.trans given')
    obtain rfl := keyed.eq_of_id there there' (known.trans known'.symm)
    exact ⟨created, apart⟩
  · obtain rfl := Option.some.inj (given.symm.trans given')
    exact absurd known (apart x there).1

/-- For an item with an identifier of its own: it brings the time of its creation. -/
theorem savedAlike_of_unknown (given : Entity.id item = some id)
    (absent : ∀ x ∈ m.shelves c, Entity.id x ≠ some id) : SavedAlike supply m c item ↔
    id ≠ "" ∧ (∃ stamp, (Entity.header item).createdAt = some stamp) ∧
    ∀ x ∈ m.shelves c, c.clash item x = false := by
  refine ⟨?_, fun ⟨named, ⟨stamp, created⟩, apart⟩ =>
    .brought given named created fun x hx => ⟨absent x hx, apart x hx⟩⟩
  rintro (⟨unsaved, -⟩ | ⟨given', there, known, -⟩ | ⟨given', named, created, apart⟩)
  · rw [given] at unsaved; cases unsaved
  · obtain rfl := Option.some.inj (given.symm.trans given')
    exact absurd known (absent _ there)
  · obtain rfl := Option.some.inj (given.symm.trans given')
    exact ⟨named, ⟨_, created⟩, fun x hx => (apart x hx).2⟩

end SavedAlike

/-- The clock shows universal time, and no identifier that is issued is empty. -/
structure Supply.Proper (supply : Supply) : Prop where
  universal : ∀ n, ∃ wall, supply.time n = .utc wall
  named : ∀ c n, supply.id c n ≠ ""

/-- A clock that starts at universal time shows universal time. -/
theorem Supply.later_utc (wall : Wall) (n : Nat) : ∃ w, later (.utc wall) n = .utc w := by
  unfold later
  split
  · exact ⟨_, rfl⟩
  · exact ⟨wall, rfl⟩

theorem Collection.clash_setHeader {c : Collection} (h : Header) (a b : c.Item) :
    c.clash (Entity.setHeader h a) b = c.clash a b := by
  cases c <;> rfl

namespace Memory

/-- An item under a known identifier takes the place of the one that had it. -/
theorem store_of_known {σ : Type} [Entity σ] {id : String} {item x : σ} {items : List σ}
    (distinct : (items.map Entity.id).Nodup) (there : x ∈ items) (known : Entity.id x = some id) :
    store id item items = items.map fun y => if hasId id y then item else y := by
  induction items with
  | nil => cases there
  | cons y ys ih =>
    obtain ⟨hy, hys⟩ := List.nodup_cons.mp distinct
    rw [store, List.map_cons]
    split
    · next same =>
      -- The identifier is not found again behind its place.
      have others : ∀ z ∈ ys, (if hasId id z then item else z) = z := fun z hz => by
        have : hasId id z = false := by
          by_contra again
          have same_id : Entity.id z = Entity.id y :=
            (hasId_iff.mp (by simpa using again)).trans (hasId_iff.mp same).symm
          exact hy (same_id ▸ List.mem_map_of_mem hz)
        simp [this]
      rw [List.map_congr_left others, List.map_id']
    · next other =>
      rcases List.mem_cons.mp there with rfl | there
      · exact absurd (hasId_iff.mpr known) other
      · rw [ih hys there]

/-- An identifier finds the item that has it. -/
theorem Keyed.find?_eq {σ : Type} [Entity σ] {id : String} {x : σ} {items : List σ}
    (keyed : Keyed items) (there : x ∈ items) (known : Entity.id x = some id) :
    find? id items = some x := by
  cases found : find? id items with
  | none => exact absurd (List.find?_eq_none.mp found x there) (by simp [hasId, known])
  | some y =>
    have same : Entity.id y = some id := hasId_iff.mp (List.find?_some found)
    rw [keyed.eq_of_id (List.mem_of_find?_eq_some found) there (same.trans known.symm)]

end Memory

namespace Mirrors

variable {supply : Supply} {m : Memory} {db : Database} {c : Collection} {id : String}

/-- A row is inserted behind the others, unless it clashes with one of them. -/
theorem insert (h : Mirrors m db) (stored : c.Item) :
    db.work.state.insert c (c.toRow stored) =
      if (m.shelves c).any fun x => c.table.clashes (c.toRow stored) (c.toRow x) then
        (false, { db.work.state with waiting := [(c, c.toRow stored)] }.breakDown)
      else (true, { db.work.state with
        current := db.work.state.current.put c ((m.shelves c ++ [stored]).map c.toRow) }) := by
  have clashes : (db.work.state.current c).any (c.table.clashes (c.toRow stored)) =
      (m.shelves c).any fun x => c.table.clashes (c.toRow stored) (c.toRow x) := by
    rw [h.rows, List.any_map]
    rfl
  rw [Session.insert, h.health]
  simp only [Session.flush, h.waiting, List.nil_append, Session.insertAll, Tables.insert?, clashes]
  cases (m.shelves c).any fun x => c.table.clashes (c.toRow stored) (c.toRow x) with
  | true => rfl
  | false => simp [h.rows]

/-- The row of a known identifier is replaced, unless the new one clashes with another row. -/
theorem update (h : Mirrors m db) {x : c.Item} (there : x ∈ m.shelves c)
    (known : Entity.id x = some id) (stored : c.Item) :
    db.work.state.update c id (c.toRow stored) =
      if (m.shelves c).any fun y =>
        !Memory.hasId id y && c.table.clashes (c.toRow stored) (c.toRow y)
      then (false, db.work.state.breakDown)
      else (true, { db.work.state with
        current := db.work.state.current.put c
          ((Memory.store id stored (m.shelves c)).map c.toRow) }) := by
  have clashes : ((db.work.state.current c).filter fun r => !r.hasId id).any
        (c.table.clashes (c.toRow stored)) =
      (m.shelves c).any fun y =>
        !Memory.hasId id y && c.table.clashes (c.toRow stored) (c.toRow y) := by
    rw [h.rows, List.any_filter, List.any_map]
    exact congrArg _ (funext fun y => by rw [Function.comp_apply, c.hasId_toRow])
  have replaced :
      ((db.work.state.current c).map fun r => if r.hasId id then c.toRow stored else r) =
        (Memory.store id stored (m.shelves c)).map c.toRow := by
    rw [h.rows, Memory.store_of_known (h.keyed c).distinct there known, List.map_map, List.map_map]
    refine List.map_congr_left fun y _ => ?_
    simp only [Function.comp_apply, c.hasId_toRow]
    split <;> rfl
  rw [Session.update, Tables.update?]
  simp only [clashes, replaced]
  cases (m.shelves c).any fun y =>
    !Memory.hasId id y && c.table.clashes (c.toRow stored) (c.toRow y) <;> rfl

/-! ### What the database makes of a save -/

/-- A mirrored database saves by storing the item at the present time. -/
theorem save_eq (h : Mirrors m db) (item : c.Item) :
    Database.answer supply (.save c item) db =
      Database.store supply c (supply.time m.drawn.times) item
        { db with drawn := m.drawn.drawTime } := by
  have ready : db.work.needsSession = .ok () := if_pos h.isOpen
  rw [Database.answer, Database.save]
  simp only [ready, h.drawn]

/-- What inserting an item answers and leaves, for the identifier that it gets. -/
theorem insert_eq (h : Mirrors m db) {item : c.Item} {now : Stamp} {drawn drawn' : Drawn}
    (named : ((Entity.id item).filter fun id => id != "").getD (supply.id c (drawn.ids c)) = id)
    (issued : (if ((Entity.id item).filter fun id => id != "").isSome then drawn
      else drawn.drawId c) = drawn') :
    Database.insert supply c now item { db with drawn := drawn } =
      if (m.shelves c).any fun x =>
          c.table.clashes (c.toRow (Database.inserted id now item)) (c.toRow x) then
        (.error (Database.saveFailed c item), Database.withSession
          { db.work.state with waiting := [(c, c.toRow (Database.inserted id now item))] }.breakDown
          { db with drawn := drawn' })
      else (.ok (Database.inserted id now item), Database.withSession
        { db.work.state with
          current := db.work.state.current.put c
            ((m.shelves c ++ [Database.inserted id now item]).map c.toRow) }
        { db with drawn := drawn' }) := by
  unfold Database.insert
  simp only [named, issued, h.insert]
  split <;> rfl

/-- What replacing the row of an item answers and leaves. -/
theorem update_eq (h : Mirrors m db) {x item : c.Item} {now : Stamp} {drawn : Drawn}
    {created : Option Stamp} (there : x ∈ m.shelves c) (known : Entity.id x = some id)
    (keeps : (Entity.header x).createdAt.map Stamp.recalled = created) :
    Database.update c now id (c.toRow x) item { db with drawn := drawn } =
      if (m.shelves c).any fun y => !Memory.hasId id y && c.table.clashes
          (c.toRow (Database.updated id created now item)) (c.toRow y) then
        (.error (Database.saveFailed c item), Database.withSession db.work.state.breakDown
          { db with drawn := drawn })
      else (.ok (Database.updated id created now item), Database.withSession
        { db.work.state with
          current := db.work.state.current.put c
            ((Memory.store id (Database.updated id created now item)
              (m.shelves c)).map c.toRow) }
        { db with drawn := drawn }) := by
  unfold Database.update
  simp only [c.createdAtOf_toRow, keeps, h.update there known]
  split <;> rfl

/-- An item under an identifier that is not stored is inserted, and one under an identifier that
is stored replaces the item that has it. -/
theorem store_eq (h : Mirrors m db) {item : c.Item} (given : Entity.id item = some id)
    (now : Stamp) (drawn : Drawn) : Database.store supply c now item { db with drawn := drawn } =
      match Memory.find? id (m.shelves c) with
      | some x => Database.update c now id (c.toRow x) item { db with drawn := drawn }
      | none => Database.insert supply c now item { db with drawn := drawn } := by
  unfold Database.store
  simp only [given, h.prepare, if_true, h.row?_eq]
  cases Memory.find? id (m.shelves c) <;> rfl

/-! ### Equal answers to a save -/

/-- No row clashes with an inserted one if no item has its identifier or its unique values. -/
theorem inserted_apart {items : List c.Item} {item : c.Item} {now : Stamp} :
    (items.any fun x => c.table.clashes (c.toRow (Database.inserted id now item)) (c.toRow x)) =
      false ↔ ∀ x ∈ items, Entity.id x ≠ some id ∧ c.clash item x = false := by
  have identifier : Entity.id (Database.inserted id now item) = some id := by
    rw [Entity.id, Database.inserted, Entity.header_setHeader]
  have values (x : c.Item) : c.clash (Database.inserted id now item) x = c.clash item x :=
    Collection.clash_setHeader _ _ _
  simp only [List.any_eq_false, c.clashes_toRow, identifier, values, Option.any_some,
    Bool.or_eq_true, beq_iff_eq, not_or, Bool.not_eq_true]

/-- No other row clashes with a replaced one if no other item has its unique values. -/
theorem updated_apart {items : List c.Item} {item : c.Item} {now : Stamp}
    {created : Option Stamp} :
    (items.any fun y => !Memory.hasId id y &&
        c.table.clashes (c.toRow (Database.updated id created now item)) (c.toRow y)) = false ↔
      ∀ y ∈ items, Entity.id y ≠ some id → c.clash item y = false := by
  have identifier : Entity.id (Database.updated id created now item) = some id := by
    rw [Entity.id, Database.updated, Entity.header_setHeader]
  have values (x : c.Item) : c.clash (Database.updated id created now item) x = c.clash item x :=
    Collection.clash_setHeader _ _ _
  simp only [List.any_eq_false, c.clashes_toRow, identifier, values, Option.any_some]
  refine forall₂_congr fun y _ => ?_
  by_cases same : Entity.id y = some id
  · simp [same, Memory.hasId]
  · simp [same, Memory.hasId]

/-- An entity is determined by its header within those that differ in nothing else. -/
theorem setHeader_inj {σ : Type} [Entity σ] {h h' : Header} {x : σ} :
    Entity.setHeader h x = Entity.setHeader h' x ↔ h = h' := by
  refine ⟨fun same => ?_, fun same => by rw [same]⟩
  rw [← Entity.header_setHeader h x, same, Entity.header_setHeader]

theorem stamped_of_new {item : c.Item} (unsaved : Entity.id item = none) :
    Memory.storedAs supply c item m = Entity.setHeader ⟨some (supply.id c (m.drawn.ids c)),
      some (supply.time m.drawn.times), some (supply.time m.drawn.times),
      (Entity.header item).version + 1⟩ item := by
  have none : (Entity.header item).id = none := unsaved
  simp [Memory.storedAs, Memory.stamped, Memory.idFor, unsaved, none]

theorem stamped_of_given {item : c.Item} (given : Entity.id item = some id) :
    Memory.storedAs supply c item m = Entity.setHeader ⟨some id, (Entity.header item).createdAt,
      some (supply.time m.drawn.times), (Entity.header item).version + 1⟩ item := by
  have some : (Entity.header item).id = some id := given
  simp [Memory.storedAs, Memory.stamped, Memory.idFor, given, some]

/-- A new item is inserted as it is stored in memory if it was not created at another time. -/
theorem inserted_eq_of_new {item : c.Item} (unsaved : Entity.id item = none) :
    Database.inserted (supply.id c (m.drawn.ids c)) (supply.time m.drawn.times) item =
        Memory.storedAs supply c item m ↔
      (Entity.header item).createdAt = none ∨
        (Entity.header item).createdAt = some (supply.time m.drawn.times) := by
  rw [stamped_of_new unsaved, Database.inserted, setHeader_inj]
  cases (Entity.header item).createdAt <;> simp

/-- An item with an identifier is inserted as it is stored in memory if it is inserted under this
identifier and says when it was created. -/
theorem inserted_eq_of_given {item : c.Item} {issued : String}
    (given : Entity.id item = some id) :
    Database.inserted issued (supply.time m.drawn.times) item = Memory.storedAs supply c item m ↔
      issued = id ∧ ∃ stamp, (Entity.header item).createdAt = some stamp := by
  rw [stamped_of_given given, Database.inserted, setHeader_inj]
  cases (Entity.header item).createdAt <;> simp

/-- An item replaces the stored one as it does in memory if both were created at one time. -/
theorem updated_eq {item : c.Item} {created : Option Stamp} (given : Entity.id item = some id) :
    Database.updated id created (supply.time m.drawn.times) item = Memory.storedAs supply c item m ↔
      created = (Entity.header item).createdAt := by
  rw [stamped_of_given given, Database.updated, setHeader_inj]
  simp

end Mirrors

/-! ### Saving by mirrored stores -/

/-- All items on the shelves are settled. -/
def Memory.Settled (m : Memory) : Prop := ∀ c, ∀ x ∈ m.shelves c, Entity.Settled x

theorem Entity.Settled.created_recalled {σ : Type} [Entity σ] {x : σ} (h : Entity.Settled x) :
    (Entity.header x).createdAt.map Stamp.recalled = (Entity.header x).createdAt := by
  obtain ⟨wall, hwall⟩ := h.created
  rw [hwall]
  rfl

namespace Mirrors

variable {supply : Supply} {m : Memory} {db : Database} {c : Collection} {id : String}

/-- The mirror after a save that left the same items. -/
theorem saved (h : Mirrors m db) {item : c.Item} {drawn : Drawn} {items : List c.Item}
    (stores : Memory.store (Memory.idFor supply c item m) (Memory.storedAs supply c item m)
      (m.shelves c) = items)
    (draws : (if (Entity.id item).isNone then m.drawn.drawTime.drawId c else m.drawn.drawTime) =
      drawn) :
    Mirrors (Memory.answer supply (.save c item) m).2
      (Database.withSession
        { db.work.state with current := db.work.state.current.put c (items.map c.toRow) }
        { db with drawn := drawn }) := by
  have keyed : Memory.Keyed items := stores ▸ (h.keyed c).store Memory.id_storedAs
  have mirrors := h.put drawn keyed
  simpa only [Memory.answer, Memory.save_eq, stores, draws] using mirrors

/-- The store in memory answers a save with the item as it is stored. -/
theorem reply_save (item : c.Item) :
    (Memory.answer supply (.save c item) m).1 = .ok (Memory.storedAs supply c item m) := by
  simp only [Memory.answer, Memory.save_eq]

theorem idFor_eq_of_inserted {item : c.Item} {now : Stamp}
    (same : Database.inserted id now item = Memory.storedAs supply c item m) :
    Memory.idFor supply c item m = id := by
  have ids : Entity.id (Database.inserted id now item) = some id := by
    rw [Entity.id, Database.inserted, Entity.header_setHeader]
  rw [same, Memory.id_storedAs] at ids
  exact Option.some.inj ids

/-- A save that inserts is answered alike exactly if the inserted item is the one that is stored
in memory and is apart from the others; then the stores mirror each other again. -/
theorem insert_alike (h : Mirrors m db) {item : c.Item} {drawn : Drawn}
    (inserts : Database.answer supply (.save c item) db =
      Database.insert supply c (supply.time m.drawn.times) item
        { db with drawn := m.drawn.drawTime })
    (named : ((Entity.id item).filter fun id => id != "").getD
      (supply.id c (m.drawn.drawTime.ids c)) = id)
    (issued : (if ((Entity.id item).filter fun id => id != "").isSome then m.drawn.drawTime
      else m.drawn.drawTime.drawId c) = drawn) :
    ((Database.answer supply (.save c item) db).1 = (Memory.answer supply (.save c item) m).1 ↔
      Database.inserted id (supply.time m.drawn.times) item = Memory.storedAs supply c item m ∧
        ∀ x ∈ m.shelves c, Entity.id x ≠ some id ∧ c.clash item x = false) ∧
    ((Database.answer supply (.save c item) db).1 = (Memory.answer supply (.save c item) m).1 →
      (if (Entity.id item).isNone then m.drawn.drawTime.drawId c else m.drawn.drawTime) = drawn →
      Mirrors (Memory.answer supply (.save c item) m).2
        (Database.answer supply (.save c item) db).2) := by
  rw [inserts, h.insert_eq named issued, reply_save]
  split
  · next clash =>
    refine ⟨⟨nofun, fun ⟨_, apart⟩ => ?_⟩, nofun⟩
    rw [inserted_apart.mpr apart] at clash
    cases clash
  · next free =>
    have apart := inserted_apart.mp (Bool.not_eq_true _ ▸ free)
    refine ⟨⟨fun same => ⟨Except.ok.inj same, apart⟩, fun same => congrArg Except.ok same.1⟩, ?_⟩
    intro same draws
    have stored := Except.ok.inj same
    refine h.saved ?_ draws
    rw [idFor_eq_of_inserted stored, Memory.store_of_new fun x hx => (apart x hx).1, stored]

/-- A save that replaces an item is answered alike exactly if the item keeps the time of its
creation and is apart from the others; then the stores mirror each other again. -/
theorem update_alike (h : Mirrors m db) (supply : Supply) {item x : c.Item}
    (given : Entity.id item = some id)
    (there : x ∈ m.shelves c) (known : Entity.id x = some id) :
    ((Database.answer supply (.save c item) db).1 = (Memory.answer supply (.save c item) m).1 ↔
      (Entity.header x).createdAt.map Stamp.recalled = (Entity.header item).createdAt ∧
        ∀ y ∈ m.shelves c, Entity.id y ≠ some id → c.clash item y = false) ∧
    ((Database.answer supply (.save c item) db).1 = (Memory.answer supply (.save c item) m).1 →
      Mirrors (Memory.answer supply (.save c item) m).2
        (Database.answer supply (.save c item) db).2) := by
  have found : Memory.find? id (m.shelves c) = some x := (h.keyed c).find?_eq there known
  rw [h.save_eq, h.store_eq given, found]
  simp only []
  rw [h.update_eq there known rfl, reply_save]
  split
  · next clash =>
    refine ⟨⟨nofun, fun ⟨_, apart⟩ => ?_⟩, nofun⟩
    rw [updated_apart.mpr apart] at clash
    cases clash
  · next free =>
    have apart := updated_apart.mp (Bool.not_eq_true _ ▸ free)
    refine ⟨⟨fun same => ⟨(updated_eq given).mp (Except.ok.inj same), apart⟩,
      fun same => congrArg Except.ok ((updated_eq given).mpr same.1)⟩, fun same => ?_⟩
    have stored := Except.ok.inj same
    refine h.saved ?_ (by rw [given]; rfl)
    rw [Memory.idFor, given, Option.getD_some, stored]

/-- Mirrored stores answer the save of a new item alike exactly if it is one to be saved alike. -/
theorem save_new (h : Mirrors m db) {item : c.Item} (unsaved : Entity.id item = none) :
    ((Database.answer supply (.save c item) db).1 = (Memory.answer supply (.save c item) m).1 ↔
      SavedAlike supply m c item) ∧
    ((Database.answer supply (.save c item) db).1 = (Memory.answer supply (.save c item) m).1 →
      Mirrors (Memory.answer supply (.save c item) m).2
        (Database.answer supply (.save c item) db).2) := by
  have inserts : Database.answer supply (.save c item) db = Database.insert supply c
      (supply.time m.drawn.times) item { db with drawn := m.drawn.drawTime } := by
    rw [h.save_eq, Database.store, unsaved]
  have issued : ((Entity.id item).filter fun id => id != "").getD
      (supply.id c (m.drawn.drawTime.ids c)) = supply.id c (m.drawn.ids c) := by
    rw [unsaved]
    rfl
  obtain ⟨alike, mirrors⟩ := h.insert_alike inserts issued rfl
  rw [inserted_eq_of_new unsaved, ← savedAlike_of_new unsaved] at alike
  exact ⟨alike, fun same => mirrors same (by rw [unsaved]; rfl)⟩

/-- The same for an item with an identifier that is not stored. -/
theorem save_unknown (h : Mirrors m db) (named : ∀ n, supply.id c n ≠ "") {item : c.Item}
    (given : Entity.id item = some id) (absent : ∀ x ∈ m.shelves c, Entity.id x ≠ some id) :
    ((Database.answer supply (.save c item) db).1 = (Memory.answer supply (.save c item) m).1 ↔
      SavedAlike supply m c item) ∧
    ((Database.answer supply (.save c item) db).1 = (Memory.answer supply (.save c item) m).1 →
      Mirrors (Memory.answer supply (.save c item) m).2
        (Database.answer supply (.save c item) db).2) := by
  have missing : Memory.find? id (m.shelves c) = none :=
    List.find?_eq_none.mpr fun x hx known => absent x hx (Memory.hasId_iff.mp known)
  have inserts := (h.save_eq item).trans (h.store_eq given (supply.time m.drawn.times) _)
  rw [missing] at inserts
  by_cases empty : id = ""
  · -- The database issues an identifier, which memory does not.
    have issued : ((Entity.id item).filter fun id => id != "").getD
        (supply.id c (m.drawn.drawTime.ids c)) = supply.id c (m.drawn.ids c) := by
      rw [given, empty]
      rfl
    obtain ⟨alike, -⟩ := h.insert_alike inserts issued rfl
    rw [inserted_eq_of_given given] at alike
    have apart : ¬(Database.answer supply (.save c item) db).1 =
        (Memory.answer supply (.save c item) m).1 := fun same =>
      named _ ((alike.mp same).1.1.trans empty)
    refine ⟨⟨fun same => absurd same apart, fun agreed => ?_⟩, fun same => absurd same apart⟩
    exact absurd empty ((savedAlike_of_unknown given absent).mp agreed).1
  · have kept : ((Entity.id item).filter fun id => id != "").getD
        (supply.id c (m.drawn.drawTime.ids c)) = id := by
      simp [given, Option.filter, empty]
    obtain ⟨alike, mirrors⟩ := h.insert_alike inserts kept rfl
    rw [inserted_eq_of_given given] at alike
    refine ⟨alike.trans ?_, fun same => mirrors same (by simp [given, empty])⟩
    rw [savedAlike_of_unknown given absent]
    exact ⟨fun ⟨created, apart⟩ => ⟨empty, created.2, fun x hx => (apart x hx).2⟩,
      fun ⟨_, created, apart⟩ => ⟨⟨rfl, created⟩, fun x hx => ⟨absent x hx, apart x hx⟩⟩⟩

/-- Mirrored stores answer a save alike exactly if the item is one to be saved alike, and after
such a save they mirror each other again. -/
theorem save (h : Mirrors m db) (settled : m.Settled) (named : ∀ n, supply.id c n ≠ "")
    (item : c.Item) :
    ((Database.answer supply (.save c item) db).1 = (Memory.answer supply (.save c item) m).1 ↔
      SavedAlike supply m c item) ∧
    ((Database.answer supply (.save c item) db).1 = (Memory.answer supply (.save c item) m).1 →
      Mirrors (Memory.answer supply (.save c item) m).2
        (Database.answer supply (.save c item) db).2) := by
  cases given : Entity.id item with
  | none => exact h.save_new given
  | some id =>
    cases found : Memory.find? id (m.shelves c) with
    | some x =>
      have there : x ∈ m.shelves c := List.mem_of_find?_eq_some found
      have known : Entity.id x = some id := Memory.hasId_iff.mp (List.find?_some found)
      obtain ⟨alike, mirrors⟩ := h.update_alike supply given there known
      rw [(settled c x there).created_recalled, eq_comm (a := (Entity.header x).createdAt),
        ← savedAlike_of_known (h.keyed c) given there known] at alike
      exact ⟨alike, mirrors⟩
    | none =>
      exact h.save_unknown named given fun x hx known =>
        List.find?_eq_none.mp found x hx (Memory.hasId_iff.mpr known)

/-! ### Savepoints -/

/-- Mirrored stores stay so when a savepoint is set. -/
theorem setSavepoint (h : Mirrors m db) :
    (Database.answer supply .setSavepoint db).1 = .ok () ∧
      Mirrors (Memory.answer supply .setSavepoint m).2
        (Database.answer supply .setSavepoint db).2 := by
  have ready : db.work.needsSession = .ok () := if_pos h.isOpen
  rw [Database.answer, Database.inSession, ready]
  simp only [Session.setSavepoint, h.prepare, if_true]
  refine ⟨rfl, h.isOpen, fun p hp => ?_, h.unbroken, h.waiting, h.drawn, h.rows, h.keyed⟩
  rcases List.mem_cons.mp hp with rfl | hp
  · rfl
  · exact h.live p hp

/-- Mirrored stores stay so when a savepoint is kept. -/
theorem keepSavepoint (h : Mirrors m db) :
    (Database.answer supply .keepSavepoint db).1 = .ok () ∧
      Mirrors (Memory.answer supply .keepSavepoint m).2
        (Database.answer supply .keepSavepoint db).2 := by
  have ready : db.work.needsSession = .ok () := if_pos h.isOpen
  have kept : db.work.state.keepSavepoint = (true, db.work.state.leaveSavepoint) := by
    unfold Session.keepSavepoint
    cases saved : db.work.state.savepoints with
    | nil =>
      refine congrArg (Prod.mk true) ?_
      rw [Session.leaveSavepoint, saved, List.tail_nil, ← saved]
    | cons p ps =>
      have live : p.health = .live := h.live p (saved ▸ List.mem_cons_self)
      simp only [live, h.flush]
  rw [Database.answer, Database.inSession, ready]
  simp only [kept]
  exact ⟨rfl, h.isOpen, fun p hp => h.live p (List.mem_of_mem_tail hp), h.unbroken, h.waiting,
    h.drawn, h.rows, h.keyed⟩

end Mirrors

/-! ## Fresh stores -/

/-- A store in memory and a database that just began its first block mirror each other. -/
theorem mirrors_empty (supply : Supply) (enlisted : List Collection) (source : SessionSource) :
    Mirrors (Memory.empty enlisted) ((Database.engine supply).enter (Database.empty source)) := by
  cases source <;> exact ⟨rfl, nofun, rfl, rfl, rfl, fun _ => rfl, fun _ => .nil⟩

theorem Memory.settled_empty (enlisted : List Collection) : (Memory.empty enlisted).Settled :=
  fun _ _ h => absurd h List.not_mem_nil

end SchoolRegistry
