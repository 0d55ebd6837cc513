import SchoolRegistry.Entity.Assignment
import SchoolRegistry.Entity.Organisation
import SchoolRegistry.Entity.Person
import SchoolRegistry.Entity.Role
import SchoolRegistry.Entity.School
import SchoolRegistry.Query.Basic

/-!
# Subjects of queries

A subject is a kind of entity together with the fields that queries about it may
name. Building a query for a subject checks every name first, then the terms
for connectives and directions, and the bounds of the window; a failure leaves
the query as it was.
-/

namespace SchoolRegistry

/-- A kind of entity to ask for. -/
structure Subject where
  /-- The name by which queries are printed. -/
  label : String
  /-- The name of the model. -/
  model : String
  /-- The fields that conditions and sort keys may name. -/
  fields : List String
  /-- The field that says whose the entity is, if entities belong to persons. -/
  ownerField? : Option String

namespace Subject

/-- The subject of the entities of a kind. -/
def entities (σ : Type) [Entity σ] (label : String) : Subject :=
  ⟨label, Entity.name σ, (Entity.model : Model σ).names, none⟩

/-- Organisations. -/
def organisations : Subject := entities Organisation "OrganisationScope"

/-- Persons. -/
def persons : Subject := entities Person "PersonScope"

/-- Roles. -/
def roles : Subject := entities Role "RolleScope"

/-- Assignments, which belong to persons. -/
def assignments : Subject :=
  { entities Assignment "PersonenkontextScope" with ownerField? := some "person_id" }

/-- Entries of the directory of schools. -/
def schools : Subject := entities School "SchuleScope"

/-- The subjects that queries can be about. -/
def all : List Subject := [organisations, persons, roles, assignments, schools]

/-- The fields in ascending order. -/
def sortedFields (s : Subject) : List String := UnknownField.sorted s.fields

/-- A query may only name fields of the subject. -/
def known (s : Subject) (field : String) : Except Failure Unit :=
  if s.fields.contains field then .ok ()
  else .error (.unknownField (.of field s.model s.sortedFields))

/-- Every name must be a field of the subject. -/
def allKnown (s : Subject) : List String → Except Failure Unit
  | [] => .ok ()
  | field :: rest =>
    match s.known field with
    | .ok () => allKnown s rest
    | .error e => .error e

/-- The term of a vocabulary that a value is, or has the text of. -/
def termOf (α : Type) [Selectable α] (v : Value) : Except Failure α :=
  match v.text?.bind Vocabulary.ofText? with
  | some a => .ok a
  | none => .error (.argument (.unknownTerm v (Vocabulary.family α)))

/-- The query with one more group of conditions on fields of the subject. The
connective is looked at only if there is something to join. -/
def findBy (s : Subject) (criteria : Fields) (connective : Value) (q : Query) :
    Except Failure Query := do
  s.allKnown (criteria.map (·.1))
  if (Query.conditionsOf criteria).isEmpty then .ok q
  else
    let c ← termOf Connective connective
    .ok (q.restrict c criteria)

/-- The query with one more sort key on a field of the subject. -/
def sortBy (s : Subject) (field : String) (direction : Value) (q : Query) :
    Except Failure Query := do
  s.known field
  let d ← termOf Direction direction
  .ok (q.sortedBy field d)

/-- The query for the entities of one person. -/
def ofOwner (s : Subject) (person : Value) (q : Query) : Except Failure Query :=
  match s.ownerField? with
  | some field => s.findBy [(field, person)] (.choice (.connective .all)) q
  | none => .error .noAttribute

end Subject

/-- A bound of a window must not be negative. -/
def Query.boundOk (name : String) : Option Int → Except Failure Unit
  | some n => if n < 0 then .error (.invalidPaging name (.whole n)) else .ok ()
  | none => .ok ()

/-- The query with the given window. -/
def Query.paged (offset limit : Option Int) (q : Query) : Except Failure Query := do
  boundOk "offset" offset
  boundOk "limit" limit
  .ok (q.windowed offset limit)

end SchoolRegistry
