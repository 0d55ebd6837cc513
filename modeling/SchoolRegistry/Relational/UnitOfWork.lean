import SchoolRegistry.Failure

/-!
# Units of work

A unit of work is a block of work in a session. Leaving the block commits, or
rolls back if the block failed; a commit that fails is followed by a rollback
and is a failure itself. A session that the unit of work opened is closed when
the block ends, whatever happened before; a session that a caller passed in is
the caller's to close. Nothing can be done while no session is open.

What sessions do is a parameter (`SessionCalls`), so that the rules of the block
do not depend on how or whether a session fails.
-/

namespace SchoolRegistry

/-- What can be done with sessions; all but opening one tells whether it
succeeded. -/
structure SessionCalls (σ : Type) where
  start : σ → σ
  commit : σ → Bool × σ
  rollback : σ → Bool × σ
  close : σ → Bool × σ

/-- Where a session comes from. -/
inductive SessionSource where
  /-- A caller passed it in. -/
  | caller
  /-- The unit of work opens one for each block. -/
  | opened
deriving DecidableEq

/-- The source that the arguments of a unit of work mean: exactly one of a session
and the means to open one must be given. -/
def SessionSource.ofArguments (session factory : Bool) : Except Failure SessionSource :=
  match session, factory with
  | true, false => .ok .caller
  | false, true => .ok .opened
  | _, _ => .error (.storage .sessionUnclear)

/-- A unit of work. -/
structure UnitOfWork (σ : Type) where
  source : SessionSource
  /-- Whether a session is open. -/
  isOpen : Bool
  state : σ

namespace UnitOfWork

variable {σ : Type}

/-- A unit of work before its first block. -/
def new (source : SessionSource) (state : σ) : UnitOfWork σ := ⟨source, source == .caller, state⟩

/-- Whether the unit of work opens and closes its sessions. -/
def ownsSession (u : UnitOfWork σ) : Bool := u.source == .opened

/-- Nothing can be done without a session. -/
def needsSession (u : UnitOfWork σ) : Except Failure Unit :=
  if u.isOpen then .ok () else .error (.storage .noSession)

/-- Begins a block. -/
def enter (calls : SessionCalls σ) (u : UnitOfWork σ) : UnitOfWork σ :=
  match u.source with
  | .caller => u
  | .opened => { u with isOpen := true, state := calls.start u.state }

/-- Commits what was done. -/
def commit (calls : SessionCalls σ) (u : UnitOfWork σ) : Except Failure Unit × UnitOfWork σ :=
  if u.isOpen then
    let (succeeded, s) := calls.commit u.state
    if succeeded then (.ok (), { u with state := s })
    else (.error (.storage .commit), { u with state := (calls.rollback s).2 })
  else (.error (.storage .noSession), u)

/-- Undoes what was done. -/
def rollback (calls : SessionCalls σ) (u : UnitOfWork σ) : Except Failure Unit × UnitOfWork σ :=
  if u.isOpen then
    let (succeeded, s) := calls.rollback u.state
    (if succeeded then .ok () else .error (.storage .rollback), { u with state := s })
  else (.error (.storage .noSession), u)

/-- Closes a session that the unit of work opened. -/
def close (calls : SessionCalls σ) (u : UnitOfWork σ) : Except Failure Unit × UnitOfWork σ :=
  if u.ownsSession && u.isOpen then
    let (succeeded, s) := calls.close u.state
    (if succeeded then .ok () else .error (.storage .close), { u with isOpen := false, state := s })
  else (.ok (), u)

/-- Ends a block that failed or did not. A failure to close the session outweighs
any other. -/
def leave (calls : SessionCalls σ) (failed : Bool) (u : UnitOfWork σ) :
    Except Failure Unit × UnitOfWork σ :=
  let (outcome, u) := if failed then u.rollback calls else u.commit calls
  let (closing, u) := u.close calls
  match closing with
  | .ok () => (outcome, u)
  | .error e => (.error e, u)

end UnitOfWork

end SchoolRegistry
