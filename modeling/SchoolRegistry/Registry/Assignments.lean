import SchoolRegistry.Registry.Replacement

/-!
# The service for assignments

Creates, deletes, lists and replaces the assignments of roles to persons. A
failure of the store during a write is a refusal; during a listing it reaches
the caller.
-/

namespace SchoolRegistry.Assignments

/-- The logger of the service. -/
def logger : String := Replacement.logger

/-- The name of the model of assignments. -/
def entity : String := Entity.name Assignment

/-- The parts of a key under the names of their fields. -/
def keyFields (k : Assignment.Key) : Fields :=
  [("person_id", .text k.personId), ("organisation_id", .text k.organisationId),
    ("rolle_id", .text k.roleId)]

/-- The query for an assignment with a key. -/
def keyQuery (k : Assignment.Key) : Query :=
  (Query.all.restrict .all (keyFields k)).windowed (some 0) (some 1)

/-- Whether an assignment with the key is stored. -/
def isStored (k : Assignment.Key) : Service Bool := do
  let found : Counted Assignment ← Service.ask (.query .assignments (keyQuery k))
  pure !found.items.isEmpty

/-- Stores an assignment unless there is one with its key. -/
def store (a : Assignment) : Service (Outcome Assignment) := do
  if ← isStored a.key then pure (.error (.alreadyExists entity (keyFields a.key) none))
  else
    let saved : Assignment ← Service.ask (.save .assignments a)
    pure (.ok saved)

/-- Creates an assignment of a stored person under the rules. -/
def create (a : Assignment) : Service (Outcome Assignment) :=
  Creation.orNotCreated logger ("Personenkontext for " ++ a.personId ++ " could not be stored")
    entity do
    let person : Option Person ← Service.ask (.get .persons a.personId)
    if person.isSome then Creation.checkRules AssignmentRules.all a (store a)
    else pure (.error (.notFound (Entity.name Person) (some a.personId)))

/-- Deletes the assignment with an identifier. -/
def delete (id : String) : Service (Outcome Unit) :=
  (do
    let deleted : Bool ← Service.ask (.delete .assignments id)
    if deleted then pure (.ok ()) else pure (.error (.notFound entity (some id)))
    : Service (Outcome Unit)).onStorageFailure fun e => do
      Journal.note ⟨logger, .error, "Personenkontext " ++ id ++ " could not be deleted"⟩
      pure (.error (.notDeleted entity (some id) (some e.message)))

/-- The query for the assignments of a person, ordered by organisation and
role. -/
def byPersonQuery (personId : String) : Query :=
  ((AssignmentRules.ofPersonQuery personId).sortedBy "organisation_id" .ascending).sortedBy
    "rolle_id" .ascending

/-- The assignments of a person, ordered by organisation and role. -/
def byPerson (personId : String) : Service (List Assignment) := do
  let found : Counted Assignment ← Service.ask (.query .assignments (byPersonQuery personId))
  pure found.items

/-- Replaces the assignments of a person. -/
def replace (inUnitOfWork : Bool) (personId : String) (lastModified : Moment) (count : Int)
    (sent : List Assignment) : Service (Outcome (List Assignment)) :=
  Replacement.apply inUnitOfWork (.requested personId lastModified count sent)

end SchoolRegistry.Assignments
