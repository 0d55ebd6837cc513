import SchoolRegistry.Value.Printed

/-!
# Failures of a store

What can go wrong between the registry and its store. The cause says which
statement failed and on what; its wording is in `StorageFailure.message`.
-/

namespace SchoolRegistry

/-- The part of the storage layer that reports a failure. -/
inductive StorageLayer where
  /-- The store as such. -/
  | store
  /-- The statements on one kind of entity. -/
  | statements
  /-- The unit of work. -/
  | unitOfWork
  /-- The session that a unit of work runs in. -/
  | session
  /-- The reading of rows as entities. -/
  | mapping
deriving DecidableEq

/-- A failure of a store. -/
inductive StorageFailure where
  /-- The store reports something of its own. -/
  | reported (layer : StorageLayer) (message : String)
  /-- An entity could not be loaded. -/
  | load (entity id : String)
  /-- An entity could not be saved. -/
  | save (entity : String) (id : Option String)
  /-- An entity could not be deleted. -/
  | delete (entity id : String)
  /-- The entities of a kind could not be listed. -/
  | list (entity : String)
  /-- A query could not be run. -/
  | query (entity scope : String)
  /-- A field of a query has no column in the table. -/
  | noColumn (field table : String)
  /-- A row could not be read as an entity. -/
  | unreadableRow (row id entity : String)
  /-- There is no open session. -/
  | noSession
  /-- A session and the means to open one were given, or neither. -/
  | sessionUnclear
  /-- The changes could not be committed. -/
  | commit
  /-- The changes could not be rolled back. -/
  | rollback
  /-- A savepoint could not be set or released. -/
  | savepoint
  /-- A session could not be closed. -/
  | close

namespace StorageFailure

/-- The part of the storage layer that reports the failure. -/
def layer : StorageFailure → StorageLayer
  | reported l _ => l
  | load .. => .statements
  | save .. => .statements
  | delete .. => .statements
  | list _ => .statements
  | query .. => .statements
  | noColumn .. => .statements
  | unreadableRow .. => .mapping
  | noSession => .unitOfWork
  | sessionUnclear => .session
  | commit => .unitOfWork
  | rollback => .unitOfWork
  | savepoint => .unitOfWork
  | close => .session

/-- The message of the failure. -/
def message : StorageFailure → String
  | reported _ m => m
  | load entity id => "Failed to load " ++ entity ++ " " ++ id
  | save entity id => "Failed to save " ++ entity ++ " " ++ id.getD "None"
  | delete entity id => "Failed to delete " ++ entity ++ " " ++ id
  | list entity => "Failed to list " ++ entity
  | query entity scope => "Failed to query " ++ entity ++ " with " ++ scope
  | noColumn field table => "Field " ++ Text.quoted field ++ " has no column on " ++ table
  | unreadableRow row id entity =>
    "Failed to map DB model " ++ row ++ "(id=" ++ id ++ ") to domain entity " ++ entity
  | noSession => "No open session; enter the unit of work first"
  | sessionUnclear => "Pass exactly one of 'session' or 'session_factory'"
  | commit => "Commit failed"
  | rollback => "Rollback failed"
  | savepoint => "Savepoint failed"
  | close => "Closing the session failed"

end StorageFailure

end SchoolRegistry
