import SchoolRegistry.Query.Printed
import SchoolRegistry.Relational.Session
import SchoolRegistry.Relational.UnitOfWork
import SchoolRegistry.Store.Program
import SchoolRegistry.Store.Supply

/-!
# The store in a database

Every collection is a table, and every request is a statement in the session of
a unit of work. A request fails if no session is open or if the session takes no
statements; saving fails also if the new row clashes with another one. The clock
is read before anything else, and an identifier that was issued stays issued
even if the row is not stored.
-/

namespace SchoolRegistry

/-- A store in a database. -/
structure Database where
  work : UnitOfWork Session
  drawn : Drawn

namespace Database

/-- An empty database. -/
def empty (source : SessionSource) : Database := ⟨.new source .first, .nothing⟩

/-- The database with its session in another state. -/
def withSession (s : Session) (db : Database) : Database :=
  { db with work := { db.work with state := s } }

/-- How the sessions of the database work. -/
def sessionCalls : SessionCalls Session where
  start := Session.next
  commit := Session.commit
  rollback s := (true, s.rollback)
  close s := (true, s.closed)

/-! ## Statements -/

section Statements

variable {α : Type}

/-- Uses the session if one is open. -/
def inSession (db : Database) (use : Session → Except Failure α × Session) :
    Except Failure α × Database :=
  match db.work.needsSession with
  | .error e => (.error e, db)
  | .ok () =>
    let (result, s) := use db.work.state
    (result, db.withSession s)

/-- Uses the session if it takes statements; if not, the request fails. -/
def prepared (failed : StorageFailure) (use : Session → Except Failure α × Session)
    (s : Session) : Except Failure α × Session :=
  let (ready, s) := s.prepare
  if ready then use s else (.error (.storage failed), s)

end Statements

/-! ## Reading -/

/-- The item with an identifier. -/
def find (c : Collection) (id : String) (s : Session) : Except Failure (Option c.Item) :=
  match s.current.row? c id with
  | none => .ok none
  | some row => (c.ofRow row).map some

/-- The rows in the order of their identifiers. -/
def byId (rows : List Row) : List Row :=
  rows.mergeSort fun a b => Statement.compareBy Statement.lastKey a b != .gt

/-- The items, or those among them with one of the given identifiers. -/
def list (c : Collection) (ids : Option (List String)) (s : Session) :
    Except Failure (List c.Item) :=
  let rows := byId (s.current c)
  match ids with
  | none => c.ofRows rows
  | some ids => c.ofRows (rows.filter fun row => ids.any fun id => row.hasId id)

/-- The items that a statement selects, and how many it accepts. -/
def select (c : Collection) (q : Query) (statement : Statement) (s : Session) :
    Except Failure (Counted c.Item) :=
  match statement.run (s.current c) with
  | .error .unsupported => .error (.storage (.query c.modelName (q.printed c.subject.label)))
  | .error .tooLarge => .error .tooLarge
  | .ok found => (c.ofRows found.items).map fun items => ⟨items, found.total⟩

/-! ## Saving -/

/-- An item as it is inserted: an item that was never stored is created now. -/
def inserted {σ : Type} [Entity σ] (id : String) (now : Stamp) (item : σ) : σ :=
  let h := Entity.header item
  Entity.setHeader ⟨some id, some (h.createdAt.getD now), some now, h.version + 1⟩ item

/-- An item as it replaces the stored one, which keeps its time of creation. -/
def updated {σ : Type} [Entity σ] (id : String) (createdAt : Option Stamp) (now : Stamp)
    (item : σ) : σ :=
  Entity.setHeader ⟨some id, createdAt, some now, (Entity.header item).version + 1⟩ item

/-- The failure to save an item. -/
def saveFailed (c : Collection) (item : c.Item) : Failure :=
  .storage (.save c.modelName (Entity.id item))

/-- Inserts an item under its identifier, or under a new one if it has none or
an empty one. -/
def insert (supply : Supply) (c : Collection) (now : Stamp) (item : c.Item) (db : Database) :
    Except Failure c.Item × Database :=
  let given := (Entity.id item).filter fun id => id != ""
  let id := given.getD (supply.id c (db.drawn.ids c))
  let drawn := if given.isSome then db.drawn else db.drawn.drawId c
  let stored := inserted id now item
  let (succeeded, s) := db.work.state.insert c (c.toRow stored)
  (if succeeded then .ok stored else .error (saveFailed c item),
    { db with drawn := drawn }.withSession s)

/-- Replaces the row of an item. -/
def update (c : Collection) (now : Stamp) (id : String) (row : Row) (item : c.Item)
    (db : Database) : Except Failure c.Item × Database :=
  let stored := updated id (Collection.createdAtOf row) now item
  let (succeeded, s) := db.work.state.update c id (c.toRow stored)
  (if succeeded then .ok stored else .error (saveFailed c item), db.withSession s)

/-- Stores an item in an open session. -/
def store (supply : Supply) (c : Collection) (now : Stamp) (item : c.Item) (db : Database) :
    Except Failure c.Item × Database :=
  match Entity.id item with
  | none => db.insert supply c now item
  | some id =>
    let (ready, s) := db.work.state.prepare
    let db := db.withSession s
    if ready then
      match s.current.row? c id with
      | some row => db.update c now id row item
      | none => db.insert supply c now item
    else (.error (saveFailed c item), db)

/-- Stores an item. -/
def save (supply : Supply) (c : Collection) (item : c.Item) (db : Database) :
    Except Failure c.Item × Database :=
  let now := supply.time db.drawn.times
  let db := { db with drawn := db.drawn.drawTime }
  match db.work.needsSession with
  | .error e => (.error e, db)
  | .ok () => db.store supply c now item

/-! ## Requests -/

/-- The failure to set or release a savepoint. -/
def ofSavepoint (succeeded : Bool) : Except Failure Unit :=
  if succeeded then .ok () else .error (.storage .savepoint)

/-- Answers a request. -/
def answer (supply : Supply) : (r : Request) → Database → Except Failure r.Reply × Database
  | .get c id, db => db.inSession <| prepared (.load c.modelName id) fun s => (find c id s, s)
  | .save c item, db => db.save supply c item
  | .delete c id, db => db.inSession <| prepared (.delete c.modelName id) fun s =>
    (.ok (s.current.row? c id).isSome, s.remove c id)
  | .list c ids, db => db.inSession <| prepared (.list c.modelName) fun s => (list c ids s, s)
  | .query c q, db =>
    match Statement.ofQuery c.table q with
    | .error e => (.error e, db)
    | .ok statement =>
      db.inSession <| prepared (.query c.modelName (q.printed c.subject.label)) fun s =>
        (select c q statement s, s)
  | .setSavepoint, db => db.inSession fun s =>
    let (succeeded, s) := s.setSavepoint
    (ofSavepoint succeeded, s)
  | .keepSavepoint, db => db.inSession fun s =>
    let (succeeded, s) := s.keepSavepoint
    (ofSavepoint succeeded, s)
  | .undoSavepoint, db => db.inSession fun s => (.ok (), s.undoSavepoint)

/-- The store as one that programs run over. -/
def handler (supply : Supply) : Handler Database := ⟨answer supply⟩

/-- A step of the unit of work as one of the store. -/
def onWork (step : UnitOfWork Session → Except Failure Unit × UnitOfWork Session)
    (db : Database) : Except Failure Unit × Database :=
  let (outcome, work) := step db.work
  (outcome, { db with work := work })

/-- The store with its unit of work. -/
def engine (supply : Supply) : Engine Database where
  handler := handler supply
  enter db := { db with work := db.work.enter sessionCalls }
  commit := onWork (UnitOfWork.commit sessionCalls)
  rollback := onWork (UnitOfWork.rollback sessionCalls)
  leave failed := onWork (UnitOfWork.leave sessionCalls failed)

end Database

end SchoolRegistry
