import SchoolRegistry.Relational.Rows

/-!
# Sessions

A session is a conversation with a database: what is committed, what the open
transaction sees, and the savepoints inside it. A write that fails undoes
everything since the innermost savepoint, or the whole transaction where there
is none, and leaves that part broken: nothing more can be done in it until it is
left. Ending the transaction ends every savepoint in it.

A row that is to be inserted where the session is broken waits, and is inserted
as soon as the session can do something again, unless it is rolled back before.
-/

namespace SchoolRegistry

/-- Whether anything can be done in a part of a transaction. -/
inductive Health where
  /-- It takes statements. -/
  | live
  /-- A write failed in it. -/
  | broken
  /-- The transaction around it has ended. -/
  | ended
deriving DecidableEq

/-- A savepoint: what the tables held when it was set, and how it is. -/
structure Savepoint where
  before : Tables
  health : Health

/-- A session. -/
structure Session where
  /-- What is committed. -/
  committed : Tables
  /-- What the transaction sees. -/
  current : Tables
  /-- The open savepoints, the innermost first. -/
  savepoints : List Savepoint
  /-- Whether a write failed outside of all savepoints. -/
  broken : Bool
  /-- The rows that wait to be inserted. -/
  waiting : List (Collection × Row)

namespace Session

/-- The first session with an empty database. -/
def first : Session := ⟨.empty, .empty, [], false, []⟩

/-- How the innermost part of the transaction is. -/
def health (s : Session) : Health :=
  match s.savepoints with
  | [] => if s.broken then .broken else .live
  | p :: _ => p.health

/-! ## Writes -/

/-- The session after a failed write. -/
def breakDown (s : Session) : Session :=
  match s.savepoints with
  | [] => { s with current := s.committed, broken := true, waiting := [] }
  | p :: rest =>
    { s with
      current := p.before
      savepoints := { p with health := .broken } :: rest
      waiting := [] }

/-- The tables with rows inserted in their order, unless one clashes. -/
def insertAll : List (Collection × Row) → Tables → Option Tables
  | [], t => some t
  | (c, row) :: rest, t => (t.insert? c row).bind (insertAll rest)

/-- Inserts the rows that wait, and tells whether it succeeded. -/
def flush (s : Session) : Bool × Session :=
  match insertAll s.waiting s.current with
  | some t => (true, { s with current := t, waiting := [] })
  | none => (false, s.breakDown)

/-- Gets ready for a statement, and tells whether one can be made. -/
def prepare (s : Session) : Bool × Session :=
  match s.health with
  | .live => s.flush
  | _ => (false, s)

/-- Inserts a row, and tells whether it succeeded. -/
def insert (c : Collection) (row : Row) (s : Session) : Bool × Session :=
  match s.health with
  | .live => { s with waiting := s.waiting ++ [(c, row)] }.flush
  | .broken => (false, { s with waiting := s.waiting ++ [(c, row)] })
  | .ended => (false, s)

/-- Replaces the row of an identifier, and tells whether it succeeded. -/
def update (c : Collection) (id : String) (row : Row) (s : Session) : Bool × Session :=
  match s.current.update? c id row with
  | some t => (true, { s with current := t })
  | none => (false, s.breakDown)

/-- Removes the row of an identifier. -/
def remove (c : Collection) (id : String) (s : Session) : Session :=
  { s with current := s.current.remove c id }

/-! ## Savepoints -/

/-- Sets a savepoint, and tells whether it succeeded. -/
def setSavepoint (s : Session) : Bool × Session :=
  let (ready, s) := s.prepare
  if ready then (true, { s with savepoints := ⟨s.current, .live⟩ :: s.savepoints }) else (false, s)

/-- The session without its innermost savepoint, whose writes stay. -/
def leaveSavepoint (s : Session) : Session := { s with savepoints := s.savepoints.tail }

/-- Keeps what was done since the innermost savepoint, and tells whether that
succeeded. In a savepoint that is broken there is nothing to keep. -/
def keepSavepoint (s : Session) : Bool × Session :=
  match s.savepoints with
  | [] => (true, s)
  | p :: _ =>
    match p.health with
    | .live =>
      let (kept, s) := s.flush
      (kept, s.leaveSavepoint)
    | _ => (true, s.leaveSavepoint)

/-- Undoes what was done since the innermost savepoint. -/
def undoSavepoint (s : Session) : Session :=
  match s.savepoints with
  | [] => s
  | p :: _ =>
    match p.health with
    | .live => { s with current := p.before, waiting := [] }.leaveSavepoint
    | _ => s.leaveSavepoint

/-! ## Transactions -/

/-- Ends every savepoint. -/
def endSavepoints (s : Session) : Session :=
  { s with savepoints := s.savepoints.map fun p => { p with health := .ended } }

/-- The session with the transaction undone. -/
def undone (s : Session) : Session :=
  { s with current := s.committed, broken := false, waiting := [] }.endSavepoints

/-- Rolls the transaction back. -/
def rollback (s : Session) : Session :=
  match s.health with
  | .ended => s
  | _ => s.undone

/-- Commits the transaction, and tells whether it succeeded. -/
def commit (s : Session) : Bool × Session :=
  let (ready, s) := s.prepare
  if ready then (true, { s with committed := s.current }.endSavepoints) else (false, s)

/-- A new session on the same database. -/
def next (s : Session) : Session := ⟨s.committed, s.current, [], false, []⟩

/-- The session after it was closed: what was not committed is lost. -/
def closed (s : Session) : Session := ⟨s.committed, s.committed, [], false, []⟩

end Session

end SchoolRegistry
