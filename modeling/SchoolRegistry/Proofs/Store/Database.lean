import SchoolRegistry.Proofs.Store.Mirror

/-!
# The store in a database

What requests do to the rows of a database. A save that is answered inserted the item, whose
identifier was free, or replaced the row that had it (`saved_save`), and then the identifier finds
what was answered, as it comes back from a row (`Saved.get`). Every other request that is answered
leaves that row alone, unless it writes to it or undoes a savepoint (`held_answer`).
-/

namespace SchoolRegistry

/-! ## Tables -/

/-- Rows of one identifier cannot be in a table together. -/
theorem Table.clashes_of_hasId {t : Table} {id : String} {a b : Row} (ha : a.hasId id = true)
    (hb : b.hasId id = true) : t.clashes a b = true := by
  have same : a.sharesKey ["id"] b = true := by
    simp only [Row.hasId, beq_iff_eq] at ha hb
    simp [Row.sharesKey, ha, hb]
  rw [clashes, keys, List.any_cons, same, Bool.true_or]

/-- A row has one identifier. -/
theorem Row.hasId_other {id id' : String} {row : Row} (has : row.hasId id = true)
    (other : id ≠ id') : row.hasId id' = false := by
  simp only [hasId, beq_iff_eq] at has
  simpa [hasId, has] using other

namespace Tables

variable {t t' : Tables} {c c' : Collection} {id id' : String} {row held : Row}

@[simp] theorem put_same {rows : List Row} : put c rows t c = rows := if_pos rfl

@[simp] theorem put_other {rows : List Row} (h : c' ≠ c) : put c rows t c' = t c' := if_neg h

/-- A row is inserted if it clashes with no other. -/
theorem insert?_eq_some : t.insert? c row = some t' ↔
    (t c).any (c.table.clashes row) = false ∧ t' = t.put c (t c ++ [row]) := by
  unfold insert?
  cases (t c).any (c.table.clashes row) with
  | true => simp
  | false => simpa using eq_comm

/-- A row is updated if it clashes with none but the one it replaces. -/
theorem update?_eq_some : t.update? c id row = some t' ↔
    ((t c).filter fun r => !r.hasId id).any (c.table.clashes row) = false ∧
      t' = t.put c ((t c).map fun r => if r.hasId id then row else r) := by
  unfold update?
  dsimp only
  cases ((t c).filter fun r => !r.hasId id).any (c.table.clashes row) with
  | true => simp
  | false => simpa using eq_comm

/-- A row is inserted only if its identifier finds none, and then the identifier finds the row. -/
theorem row?_insert (inserted : t.insert? c row = some t') (its : row.hasId id = true) :
    t.row? c id = none ∧ t'.row? c id = some row := by
  obtain ⟨apart, rfl⟩ := insert?_eq_some.mp inserted
  have free : t.row? c id = none := by
    apply List.find?_eq_none.mpr
    intro r there same
    have clash := Table.clashes_of_hasId (t := c.table) its same
    exact absurd clash (List.any_eq_false.mp apart r there)
  refine ⟨free, ?_⟩
  rw [row?, put_same, List.find?_append]
  rw [row?] at free
  simp [free, its]

/-- What was found is found after an insertion. -/
theorem row?_insert_of_some (inserted : t.insert? c' row = some t')
    (found : t.row? c id = some held) : t'.row? c id = some held := by
  obtain ⟨-, rfl⟩ := insert?_eq_some.mp inserted
  by_cases same : c = c'
  · subst same
    rw [row?] at found ⊢
    rw [put_same, List.find?_append, found, Option.some_or]
  · rwa [row?, put_other same]

/-- The identifier of a replaced row finds the new one. -/
theorem row?_update (updated : t.update? c id row = some t') (its : row.hasId id = true)
    (found : t.row? c id = some held) : t'.row? c id = some row := by
  obtain ⟨-, rfl⟩ := update?_eq_some.mp updated
  have same : (Row.hasId id ∘ fun r => if r.hasId id then row else r) = Row.hasId id := by
    funext r
    by_cases has : r.hasId id <;> simp [has, its]
  have has : held.hasId id = true := List.find?_some found
  rw [row?] at found ⊢
  rw [put_same, List.find?_map, same, found, Option.map_some, if_pos has]

/-- Other identifiers find what they found. -/
theorem row?_update_other (updated : t.update? c' id' row = some t') (its : row.hasId id' = true)
    (other : c = c' → id ≠ id') (found : t.row? c id = some held) :
    t'.row? c id = some held := by
  obtain ⟨-, rfl⟩ := update?_eq_some.mp updated
  by_cases same : c = c'
  · subst same
    have apart := other rfl
    have kept : (Row.hasId id ∘ fun r => if r.hasId id' then row else r) = Row.hasId id := by
      funext r
      by_cases has : r.hasId id' = true
      · simp [has, Row.hasId_other has apart.symm, Row.hasId_other its apart.symm]
      · simp [has]
    have has : held.hasId id = true := List.find?_some found
    rw [row?] at found ⊢
    rw [put_same, List.find?_map, kept, found, Option.map_some, Row.hasId_other has apart]
    rfl
  · rwa [row?, put_other same]

/-- To remove a row does not touch the others. -/
theorem row?_remove_other (other : c = c' → id ≠ id') (found : t.row? c id = some held) :
    (t.remove c' id').row? c id = some held := by
  by_cases same : c = c'
  · subst same
    have kept : (fun r : Row => decide ((!r.hasId id') = true ∧ r.hasId id = true)) =
        Row.hasId id := by
      funext r
      cases has : r.hasId id with
      | false => simp
      | true => simp [Row.hasId_other has (other rfl)]
    rw [row?] at found ⊢
    rw [remove, put_same, List.find?_filter, kept, found]
  · rwa [row?, remove, put_other same]

end Tables

/-! ## Sessions -/

namespace Session

variable {s s' : Session} {c : Collection} {id : String} {row : Row}

/-- The session takes statements and nothing waits in it. -/
structure Ready (s : Session) : Prop where
  live : s.health = .live
  waiting : s.waiting = []

theorem insertAll_append (ws ws' : List (Collection × Row)) (t : Tables) :
    insertAll (ws ++ ws') t = (insertAll ws t).bind (insertAll ws') := by
  induction ws generalizing t with
  | nil => rfl
  | cons w ws ih =>
    rw [List.cons_append, insertAll, insertAll, Option.bind_assoc]
    exact congrArg (Option.bind _) (funext ih)

theorem Ready.prepare (h : s.Ready) : s.prepare = (true, s) := by
  rw [Session.prepare, h.live]
  simp only [flush, h.waiting, insertAll]
  rw [← h.waiting]

/-- A session that gets ready for a statement inserted what waited. -/
theorem prepare_eq_true (prepared : s.prepare.1 = true) : s.health = .live ∧
    ∃ t, s.prepare.2 = { s with current := t, waiting := [] } := by
  unfold Session.prepare at prepared ⊢
  cases live : s.health with
  | live =>
    simp only [live, flush] at prepared ⊢
    cases all : insertAll s.waiting s.current with
    | none => simp [all] at prepared
    | some t => exact ⟨trivial, t, rfl⟩
  | broken => simp [live] at prepared
  | ended => simp [live] at prepared

/-- A session that got ready is ready. -/
theorem ready_prepare (prepared : s.prepare.1 = true) : s.prepare.2.Ready := by
  obtain ⟨live, t, after⟩ := prepare_eq_true prepared
  rw [after]
  exact ⟨live, rfl⟩

/-- A row is inserted in a session that gets ready for it, unless it clashes with another one. -/
theorem insert_eq_true (inserted : (s.insert c row).1 = true) : s.prepare.1 = true ∧
    ∃ t, s.prepare.2.current.insert? c row = some t ∧
      (s.insert c row).2 = { s.prepare.2 with current := t } := by
  unfold Session.insert at inserted ⊢
  unfold Session.prepare
  cases live : s.health with
  | broken => simp [live] at inserted
  | ended => simp [live] at inserted
  | live =>
    simp only [live, flush, insertAll_append] at inserted ⊢
    cases all : insertAll s.waiting s.current with
    | none => simp [all] at inserted
    | some t =>
      simp only [all, Option.bind_some, insertAll] at inserted ⊢
      cases last : t.insert? c row with
      | none => simp [last] at inserted
      | some t' => exact ⟨trivial, t', rfl, rfl⟩

/-- A session updates a row if the tables allow it. -/
theorem update_eq_true (updated : (s.update c id row).1 = true) :
    ∃ t, s.current.update? c id row = some t ∧
      (s.update c id row).2 = { s with current := t } := by
  unfold Session.update at updated ⊢
  cases last : s.current.update? c id row with
  | none => simp [last] at updated
  | some t => exact ⟨t, rfl, rfl⟩

/-- Nothing waits in the session, and the identifier finds the row. -/
structure Held (c : Collection) (id : String) (row : Row) (s : Session) : Prop where
  waiting : s.waiting = []
  found : s.current.row? c id = some row

/-- Nothing waits in a session that holds a row, so that getting ready changes nothing. -/
theorem Held.prepare (h : s.Held c id row) (prepared : s.prepare.1 = true) :
    s.prepare.2 = s := by
  have ready : s.Ready := ⟨(prepare_eq_true prepared).1, h.waiting⟩
  rw [ready.prepare]

end Session

namespace Database

variable {supply : Supply} {db : Database} {c : Collection} {item x : c.Item} {id : String}
  {now : Stamp} {row : Row}

/-! ## Saving -/

/-- An item as a save stores it at a time, given the rows before: it is inserted under an
identifier that is free, or it takes the place of the row that the identifier finds. -/
inductive Stored (before : Tables) (now : Stamp) (item : c.Item) (id : String) : c.Item → Prop
  | new : before.row? c id = none → Stored before now item id (inserted id now item)
  | known {row : Row} : Entity.id item = some id → before.row? c id = some row →
    Stored before now item id (updated id (Collection.createdAtOf row) now item)

theorem id_inserted : Entity.id (inserted id now item) = some id := by
  rw [Entity.id, inserted, Entity.header_setHeader]

theorem id_updated {created : Option Stamp} :
    Entity.id (updated id created now item) = some id := by
  rw [Entity.id, updated, Entity.header_setHeader]

/-- An item is stored under the identifier. -/
theorem Stored.id_eq {before : Tables} (h : Stored before now item id x) :
    Entity.id x = some id := by
  cases h with
  | new => exact id_inserted
  | known => exact id_updated

/-- It is stored with the version after its own. -/
theorem Stored.version_eq {before : Tables} (h : Stored before now item id x) :
    Entity.version x = Entity.version item + 1 := by
  cases h <;> simp only [Entity.version, inserted, updated, Entity.header_setHeader]

/-- A save was answered in an open session that got ready for it, stored the item among the rows
there, and left the session ready. -/
structure Saved (before : Database) (now : Stamp) (item : c.Item) (id : String) (x : c.Item)
    (after : Database) : Prop where
  isOpen : before.work.isOpen = true
  prepared : before.work.state.prepare.1 = true
  stored : Stored before.work.state.prepare.2.current now item id x
  stays : after.work.isOpen = true
  ready : after.work.state.Ready
  found : after.work.state.current.row? c id = some (c.toRow x)
  /-- Other identifiers find what they found. -/
  others : ∀ {c' : Collection} {id' : String} {row : Row},
    before.work.state.prepare.2.current.row? c' id' = some row → (c' = c → id' ≠ id) →
      after.work.state.current.row? c' id' = some row

theorem hasId_toRow_of_id (its : Entity.id x = some id) : Row.hasId id (c.toRow x) = true := by
  rw [c.hasId_toRow]
  exact Memory.hasId_iff.mpr its

/-- An insertion that is answered saves the item under some identifier. -/
theorem saved_insert (isOpen : db.work.isOpen = true)
    (answered : (insert supply c now item db).1 = .ok x) :
    ∃ id, Saved db now item id x (insert supply c now item db).2 := by
  unfold insert at answered ⊢
  dsimp only at answered ⊢
  generalize ((Entity.id item).filter fun id => id != "").getD (supply.id c (db.drawn.ids c)) = id
    at answered ⊢
  cases succeeded : (db.work.state.insert c (c.toRow (inserted id now item))).1 with
  | false => simp [succeeded] at answered
  | true =>
    rw [succeeded, if_pos rfl] at answered
    cases answered
    obtain ⟨prepared, t, inserts, after⟩ := Session.insert_eq_true succeeded
    have ready := Session.ready_prepare prepared
    obtain ⟨free, found⟩ := Tables.row?_insert inserts (hasId_toRow_of_id id_inserted)
    refine ⟨id, isOpen, prepared, .new free, isOpen, ?_, ?_, ?_⟩
    · rw [withSession, after]
      exact ⟨ready.live, ready.waiting⟩
    · rw [withSession, after]
      exact found
    · rw [withSession, after]
      intro c' id' row there _
      exact Tables.row?_insert_of_some inserts there

/-- An update that is answered saves the item under the identifier of the row. -/
theorem saved_update (isOpen : db.work.isOpen = true) (ready : db.work.state.Ready)
    (given : Entity.id item = some id) (there : db.work.state.current.row? c id = some row)
    (answered : (update c now id row item db).1 = .ok x) :
    Saved db now item id x (update c now id row item db).2 := by
  unfold update at answered ⊢
  dsimp only at answered ⊢
  cases succeeded : (db.work.state.update c id
      (c.toRow (updated id (Collection.createdAtOf row) now item))).1 with
  | false => simp [succeeded] at answered
  | true =>
    rw [succeeded, if_pos rfl] at answered
    cases answered
    obtain ⟨t, replaces, after⟩ := Session.update_eq_true succeeded
    refine ⟨isOpen, by rw [ready.prepare], ?_, isOpen, ?_, ?_, ?_⟩
    · rw [ready.prepare]
      exact .known given there
    · rw [withSession, after]
      exact ⟨ready.live, ready.waiting⟩
    · rw [withSession, after]
      exact Tables.row?_update replaces (hasId_toRow_of_id id_updated) there
    · rw [withSession, after, ready.prepare]
      intro c' id' row found other
      exact Tables.row?_update_other replaces (hasId_toRow_of_id id_updated) other found

/-- Getting ready for a save beforehand makes no difference. -/
theorem Saved.of_prepared {drawn : Drawn} {after : Database}
    (prepared : db.work.state.prepare.1 = true)
    (h : Saved (withSession db.work.state.prepare.2 { db with drawn := drawn }) now item id x
      after) : Saved db now item id x after := by
  have stored := h.stored
  have others := @h.others
  have again := (Session.ready_prepare prepared).prepare
  simp only [withSession, again] at stored others
  exact ⟨h.isOpen, prepared, stored, h.stays, h.ready, h.found, others⟩

/-- What a save did that was answered. -/
theorem saved_save (answered : (answer supply (.save c item) db).1 = .ok x) :
    ∃ id, Saved db (supply.time db.drawn.times) item id x (answer supply (.save c item) db).2 := by
  unfold answer save at answered ⊢
  cases isOpen : db.work.isOpen with
  | false => simp [UnitOfWork.needsSession, isOpen] at answered
  | true =>
    have open' : UnitOfWork.needsSession db.work = .ok () := if_pos isOpen
    simp only [open'] at answered ⊢
    unfold store at answered ⊢
    cases given : Entity.id item with
    | none =>
      simp only [given] at answered ⊢
      obtain ⟨id, saved⟩ := saved_insert isOpen answered
      exact ⟨id, saved.isOpen, saved.prepared, saved.stored, saved.stays, saved.ready, saved.found,
        saved.others⟩
    | some id =>
      simp only [given] at answered ⊢
      cases prepared : db.work.state.prepare.1 with
      | false => simp [prepared] at answered
      | true =>
        simp only [prepared, if_true] at answered ⊢
        cases there : db.work.state.prepare.2.current.row? c id with
        | none =>
          -- Here the identifier may be the empty one, in whose place another is issued.
          simp only [there] at answered ⊢
          obtain ⟨id', saved⟩ := saved_insert (by exact isOpen) answered
          exact ⟨id', saved.of_prepared prepared⟩
        | some row =>
          simp only [there] at answered ⊢
          have saved := saved_update (by exact isOpen) (Session.ready_prepare prepared) given there
            answered
          exact ⟨id, saved.of_prepared prepared⟩

/-! ## Getting -/

/-- To get an item, a session gets ready and finds it. -/
theorem answer_get (isOpen : db.work.isOpen = true) (prepared : db.work.state.prepare.1 = true)
    (supply : Supply) (id : String) :
    (answer supply (.get c id) db).1 = find c id db.work.state.prepare.2 := by
  have open' : UnitOfWork.needsSession db.work = .ok () := if_pos isOpen
  simp only [answer, inSession, open', Database.prepared, prepared, if_true]

/-- What was saved is got as it comes back from a row. -/
theorem find_of_row {s : Session} (found : s.current.row? c id = some (c.toRow x)) :
    find c id s = .ok (some (Entity.recalled x)) := by
  rw [find, found]
  exact congrArg (Except.map some) (c.ofRow_toRow x)

/-! ## Answered requests -/

/-- A request that is answered in the session was made in an open one. -/
theorem inSession_ok {α : Type} {use : Session → Except Failure α × Session} {reply : α}
    (answered : (db.inSession use).1 = .ok reply) : (use db.work.state).1 = .ok reply ∧
      (db.inSession use).2.work.state = (use db.work.state).2 := by
  unfold inSession at answered ⊢
  cases isOpen : db.work.isOpen with
  | false => simp [UnitOfWork.needsSession, isOpen] at answered
  | true =>
    have open' : UnitOfWork.needsSession db.work = .ok () := if_pos isOpen
    simp only [open'] at answered ⊢
    exact ⟨answered, rfl⟩

/-- A statement that is answered was made in a session that got ready for it. -/
theorem prepared_ok {α : Type} {failed : StorageFailure} {s : Session}
    {use : Session → Except Failure α × Session} {reply : α}
    (answered : (Database.prepared failed use s).1 = .ok reply) :
    s.prepare.1 = true ∧ Database.prepared failed use s = use s.prepare.2 := by
  unfold Database.prepared at answered ⊢
  cases ready : s.prepare.1 with
  | false => simp [ready] at answered
  | true => exact ⟨rfl, by simp only [ready, if_true]⟩

/-- A saved item is found under its identifier, as it is recalled. -/
theorem Saved.get {after : Database} (h : Saved db now item id x after) (supply : Supply) :
    (answer supply (.get c id) after).1 = .ok (some (Entity.recalled x)) := by
  rw [answer_get h.stays (by rw [h.ready.prepare]), h.ready.prepare]
  exact find_of_row h.found

end Database

/-- The request writes nothing under the identifier and undoes nothing. -/
def Request.SparesRow (c : Collection) (id : String) : Request → Prop
  | .save c' item => c' = c → Entity.id item ≠ some id
  | .delete c' id' => c' = c → id' ≠ id
  | .undoSavepoint => False
  | _ => True

namespace Session

variable {s : Session} {c : Collection} {id : String} {row : Row}

theorem Held.keepSavepoint (h : s.Held c id row) : s.keepSavepoint.2.Held c id row := by
  unfold Session.keepSavepoint
  cases saved : s.savepoints with
  | nil => exact h
  | cons p rest =>
    cases health : p.health with
    | live =>
      simp only [health, flush, h.waiting, insertAll]
      exact ⟨rfl, h.found⟩
    | broken => simpa only [health] using ⟨h.waiting, h.found⟩
    | ended => simpa only [health] using ⟨h.waiting, h.found⟩

end Session

namespace Database

variable {supply : Supply} {db : Database} {c : Collection} {id : String} {row : Row}

/-- A row that is held stays while other items are saved. -/
theorem held_save {c' : Collection} {item x : c'.Item} (held : db.work.state.Held c id row)
    (spares : (Request.save c' item).SparesRow c id)
    (answered : (answer supply (.save c' item) db).1 = .ok x) :
    (answer supply (.save c' item) db).2.work.state.Held c id row := by
  obtain ⟨id', saved⟩ := saved_save answered
  have there : db.work.state.prepare.2.current.row? c id = some row := by
    rw [held.prepare saved.prepared]
    exact held.found
  refine ⟨saved.ready.waiting, saved.others there ?_⟩
  rintro rfl rfl
  -- the identifier of an item that was replaced is its own, and a free one finds no row
  cases saved.stored with
  | new free => rw [there] at free; cases free
  | known given => exact spares rfl given

/-- A statement that is answered is made in the session as it is, if nothing waits there. -/
theorem state_statement {α : Type} {failed : StorageFailure}
    {use : Session → Except Failure α × Session} {reply : α}
    (held : db.work.state.Held c id row)
    (answered : (db.inSession (Database.prepared failed use)).1 = .ok reply) :
    (db.inSession (Database.prepared failed use)).2.work.state = (use db.work.state).2 := by
  obtain ⟨made, after⟩ := inSession_ok answered
  obtain ⟨ready, same⟩ := prepared_ok made
  rw [after, same, held.prepare ready]

/-- A row stays where it is under requests that are answered and spare it. -/
theorem held_answer (held : db.work.state.Held c id row) {r : Request} (spares : r.SparesRow c id)
    {reply : r.Reply} (answered : (answer supply r db).1 = .ok reply) :
    (answer supply r db).2.work.state.Held c id row := by
  cases r with
  | save c' item => exact held_save held spares answered
  | get c' id' =>
    unfold answer at answered ⊢
    rw [state_statement held answered]
    exact held
  | list c' ids =>
    unfold answer at answered ⊢
    rw [state_statement held answered]
    exact held
  | delete c' id' =>
    unfold answer at answered ⊢
    rw [state_statement held answered]
    refine ⟨held.waiting, Tables.row?_remove_other ?_ held.found⟩
    intro same
    exact (spares same.symm).symm
  | query c' q =>
    unfold answer at answered ⊢
    cases meant : Statement.ofQuery c'.table q with
    | error e => simp [meant] at answered
    | ok statement =>
      simp only [meant] at answered ⊢
      rw [state_statement held answered]
      exact held
  | setSavepoint =>
    unfold answer at answered ⊢
    obtain ⟨made, after⟩ := inSession_ok answered
    rw [after]
    unfold Session.setSavepoint at made ⊢
    cases ready : db.work.state.prepare.1 with
    | false => simp [ready, ofSavepoint] at made
    | true =>
      simp only [ready, if_true, held.prepare ready]
      exact ⟨held.waiting, held.found⟩
  | keepSavepoint =>
    unfold answer at answered ⊢
    obtain ⟨-, after⟩ := inSession_ok answered
    rw [after]
    exact held.keepSavepoint
  | undoSavepoint => exact spares.elim

end Database

end SchoolRegistry
