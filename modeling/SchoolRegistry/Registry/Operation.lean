import SchoolRegistry.Registry.Assignments
import SchoolRegistry.Registry.Organisations
import SchoolRegistry.Registry.Persons
import SchoolRegistry.Registry.Roles

/-!
# The operations of the registry

Everything that can be asked of the registry, as data. Each operation is carried
out by one of the services; how large pages get and whether there is a unit of
work belongs to the registry and not to the operation.
-/

namespace SchoolRegistry

/-- An operation of the registry. -/
inductive Operation where
  | createOrganisation (o : Organisation)
  | createPerson (p : Person)
  | createRole (r : Role)
  | createAssignment (a : Assignment)
  | findOrganisation (id : String)
  | findPerson (id : String)
  | listOrganisations (f : Organisations.Filter) (w : Window)
  /-- To list the organisations that one administers. -/
  | listAdministered (id : String) (w : Window)
  | listPersons (f : Persons.Filter) (w : Window)
  | listRoles (f : Roles.Filter) (w : Window)
  | deleteAssignment (id : String)
  /-- To list the assignments of a person. -/
  | listAssignments (personId : String)
  /-- To replace the assignments of a person. -/
  | replaceAssignments (personId : String) (lastModified : Moment) (count : Int)
    (sent : List Assignment)

/-- What an operation is answered with. -/
abbrev Operation.Reply : Operation → Type
  | createOrganisation _ => Outcome Organisation
  | createPerson _ => Outcome Person
  | createRole _ => Outcome Role
  | createAssignment _ => Outcome Assignment
  | findOrganisation _ => Outcome Organisation
  | findPerson _ => Outcome Person
  | listOrganisations _ _ => Page Organisation
  | listAdministered _ _ => Outcome (Page Organisation)
  | listPersons _ _ => Page Person
  | listRoles _ _ => Page Role
  | deleteAssignment _ => Outcome Unit
  | listAssignments _ => List Assignment
  | replaceAssignments .. => Outcome (List Assignment)

/-- The registry as its services see it. -/
structure Registry where
  /-- How large pages get. -/
  limits : Option PageLimits
  /-- Whether several writes are made in one unit of work. -/
  inUnitOfWork : Bool

/-- Carries out an operation. -/
def Registry.perform (g : Registry) : (o : Operation) → Service o.Reply
  | .createOrganisation o => Organisations.create o
  | .createPerson p => Persons.create p
  | .createRole r => Roles.create r
  | .createAssignment a => Assignments.create a
  | .findOrganisation id => Organisations.find id
  | .findPerson id => Persons.find id
  | .listOrganisations f w => Organisations.list g.limits f w
  | .listAdministered id w => Organisations.administeredBy g.limits id w
  | .listPersons f w => Persons.list g.limits f w
  | .listRoles f w => Roles.list g.limits f w
  | .deleteAssignment id => Assignments.delete id
  | .listAssignments personId => Assignments.byPerson personId
  | .replaceAssignments personId lastModified count sent =>
    Assignments.replace g.inUnitOfWork personId lastModified count sent

end SchoolRegistry
