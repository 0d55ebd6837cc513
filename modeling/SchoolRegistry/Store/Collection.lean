import SchoolRegistry.Query.Subject
import SchoolRegistry.Relational.Table

/-!
# Collections

A store keeps one collection for each kind of entity. The items of a collection
are typed by it, so that whatever stores and programs do with items they do for
all collections alike.
-/

namespace SchoolRegistry

/-- The collections of a store. -/
inductive Collection where
  | organisations
  | persons
  | roles
  | assignments
deriving DecidableEq

namespace Collection

/-- The collections in their order. -/
def all : List Collection := [organisations, persons, roles, assignments]

/-- The name of a collection. -/
def name : Collection → String
  | organisations => "organisation"
  | persons => "person"
  | roles => "rolle"
  | assignments => "personenkontext"

/-- The collection of the given name. -/
def ofName? (s : String) : Option Collection := all.find? fun c => c.name == s

/-- What a collection holds. -/
abbrev Item : Collection → Type
  | organisations => Organisation
  | persons => Person
  | roles => Role
  | assignments => Assignment

instance (c : Collection) : Entity c.Item :=
  match c with
  | organisations => inferInstanceAs (Entity Organisation)
  | persons => inferInstanceAs (Entity Person)
  | roles => inferInstanceAs (Entity Role)
  | assignments => inferInstanceAs (Entity Assignment)

/-- The items as subjects of queries. -/
def subject : Collection → Subject
  | organisations => .organisations
  | persons => .persons
  | roles => .roles
  | assignments => .assignments

/-- The table of the collection in a database. -/
def table : Collection → Table
  | organisations => .organisations
  | persons => .persons
  | roles => .roles
  | assignments => .assignments

/-- What the identifiers that a store issues start with. -/
def idStart : Collection → String
  | organisations => "org-"
  | persons => "person-"
  | roles => "rolle-"
  | assignments => "pk-"

/-- The name of the model of the items. -/
def modelName (c : Collection) : String := Entity.name c.Item

/-- The collection of the items of the given model. -/
def ofModel? (s : String) : Option Collection := all.find? fun c => c.modelName == s

end Collection

end SchoolRegistry
