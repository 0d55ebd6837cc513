import SchoolRegistry.Registry.AssignmentRules
import SchoolRegistry.Registry.Creation

/-!
# Replacing the assignments of a person

A client sends all assignments that a person is to have, together with the
number and the last change of those it saw. If the stored ones are still the
ones it saw, those not sent are deleted and those not stored are added; the rest
stay untouched. Inside a unit of work the writes happen in one savepoint, so
that a failing write leaves the stored assignments as they were.
-/

namespace SchoolRegistry

/-- A request to replace the assignments of a person. -/
structure Replacement where
  personId : String
  /-- The last change that the client saw. -/
  lastModified : Stamp
  /-- The number of assignments that the client saw. -/
  count : Int
  sent : List Assignment
  /-- The assignments that are stored. -/
  existing : List Assignment

namespace Replacement

/-- The logger of the service. -/
def logger : String := "dbiam.domain.personenkontext"

/-- The name of the model of assignments. -/
def entity : String := Entity.name Assignment

instance : Candidate Replacement where
  id? r := some r.personId

/-- The request as a client makes it; a last change without an offset is read as
universal time. -/
def requested (personId : String) (lastModified : Moment) (count : Int) (sent : List Assignment) :
    Replacement :=
  ⟨personId, lastModified.assumeUtc, count, sent, []⟩

/-! ## Rules -/

/-- Every assignment sent is one of the person. -/
def personIdsMatch (r : Replacement) : Bool := r.sent.all fun a => a.personId == r.personId

/-- As many assignments are stored as the client saw. -/
def countMatches (r : Replacement) : Bool := (r.existing.length : Int) == r.count

/-- No stored assignment was changed after the last change that the client
saw. -/
def notOutdated (r : Replacement) : Bool :=
  (r.existing.filterMap (·.updatedAt)).all fun s => s.notAfter r.lastModified

/-- A rule from its check. -/
def rule (label name : String) (check : Replacement → Bool) : Rule Service Replacement :=
  .plain label name entity fun r => pure (.flag (check r))

/-- The details of an outdated request. -/
def outdatedDetails (r : Replacement) : Fields :=
  [("last_modified", .text r.lastModified.toText)]

/-- The rules in the order in which they are checked. -/
def rules : List (Rule Service Replacement) := [
  rule "PersonIdsMatch" "PERSON_ID_MISMATCH" personIdsMatch,
  rule "AssignmentCountMatches" "INVALID_PERSONENKONTEXT_COUNT" countMatches,
  { rule "AssignmentsNotOutdated" "PERSONENKONTEXTE_OUTDATED" notOutdated with
    violation := fun r => .revisionMismatch entity (some r.personId) r.outdatedDetails }]

/-! ## Writes -/

/-- A record about a write on an assignment. -/
def writeRecord (verb : String) (k : Assignment.Key) : LogRecord :=
  ⟨logger, .info, verb ++ " Personenkontext with "
    ++ ", ".intercalate [k.personId, k.organisationId, k.roleId]⟩

/-- Deletes one assignment. -/
def deleteOne (a : Assignment) : Service Unit := do
  Journal.note (writeRecord "DELETE" a.key)
  let request : Service Bool := Service.ask (.delete .assignments (a.id.getD ""))
  let deleted ← request.onStorageFailure fun e => do
    Journal.note ⟨logger, .error,
      "Deleting Personenkontext " ++ Creation.shownText a.id ++ " failed"⟩
    throw (.refused (.notDeleted entity a.id (some e.message)))
  if deleted then pure () else throw (.refused (.notDeleted entity a.id none))

/-- Adds one assignment. -/
def addOne (personId : String) (k : Assignment.Key) : Service Unit := do
  Journal.note (writeRecord "ADD" k)
  let _ : Assignment ← (Service.ask (.save .assignments (.ofKey k))).onStorageFailure fun e => do
    Journal.note ⟨logger, .error, "Adding Personenkontext for " ++ personId ++ " failed"⟩
    throw (.refused (.notUpdated entity (some personId) (some e.message)))
  pure ()

/-- The stored assignments that were not sent. -/
def obsolete (r : Replacement) : List Assignment :=
  r.existing.filter fun a => !(r.sent.map (·.key)).contains a.key

/-- The keys among the given ones that are not known yet, each once. -/
def newKeys : List Assignment.Key → List Assignment.Key → List Assignment.Key
  | _, [] => []
  | known, k :: rest =>
    if known.contains k then newKeys known rest else k :: newKeys (k :: known) rest

/-- The keys that were sent and are not stored, in the order of their first
occurrence. -/
def missing (r : Replacement) : List Assignment.Key :=
  newKeys (r.existing.map (·.key)) (r.sent.map (·.key))

/-- Carries out a write for each element of a list. -/
def each {α : Type} (write : α → Service Unit) : List α → Service Unit
  | [] => pure ()
  | a :: rest => do
    write a
    each write rest

/-- Deletes what was not sent and adds what is not stored. -/
def write (r : Replacement) : Service Unit := do
  each deleteOne r.obsolete
  each (addOne r.personId) r.missing

/-- Checks the request against the stored assignments and carries it out. -/
def carryOut (inUnitOfWork : Bool) (r : Replacement) : Service (Outcome (List Assignment)) := do
  let existing ← AssignmentRules.ofPerson r.personId
  let r := { r with existing := existing }
  Creation.checkRules rules r do
    if inUnitOfWork then r.write.inSavepoint else r.write
    let now ← AssignmentRules.ofPerson r.personId
    pure (.ok now)

/-- Carries out the request; a failing write or a failure of the store is a
refusal. -/
def apply (inUnitOfWork : Bool) (r : Replacement) : Service (Outcome (List Assignment)) := do
  match ← (r.carryOut inUnitOfWork).attempt with
  | .ok outcome => pure outcome
  | .error (.refused refusal) => pure (.error refusal)
  | .error (.storage e) => do
    Journal.note ⟨logger, .error, "Updating Personenkontexte of " ++ r.personId ++ " failed"⟩
    pure (.error (.notUpdated entity (some r.personId) (some e.message)))
  | .error e => throw e

end Replacement

end SchoolRegistry
