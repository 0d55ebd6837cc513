import SchoolRegistry.Registry.Creation
import SchoolRegistry.Registry.Listing
import SchoolRegistry.Rule.Presence

/-!
# The service for roles

Creates roles and lists them. The organisation that administers a role must be
stored.
-/

namespace SchoolRegistry.Roles

/-- The logger of the service. -/
def logger : String := "dbiam.domain.rolle"

/-- Whether the organisation that administers a role is stored. -/
def isAdministered (r : Role) : Service Bool :=
  match r.administeredBy with
  | none => pure false
  | some id => do
    let found : Option Organisation ← Service.ask (.get .organisations id)
    pure found.isSome

/-- Stores a role if the organisation that administers it is stored. -/
def store (r : Role) : Service (Outcome Role) := do
  if ← isAdministered r then
    let saved : Role ← Service.ask (.save .roles r)
    pure (.ok saved)
  else pure (.error (.notFound (Entity.name Organisation) r.administeredBy))

/-- Creates a role. -/
def create (r : Role) : Service (Outcome Role) :=
  Creation.checkRules [Presence.nameWithoutBlanks Entity.toValue] r <|
    Creation.orNotCreated logger ("Rolle " ++ Creation.shownText r.name ++ " could not be stored")
      (Entity.name Role) (store r)

/-- What a listing of roles may demand; a missing value demands nothing. -/
structure Filter where
  name : Value
  kind : Value

/-- The criteria of a filter. -/
def Filter.criteria (f : Filter) : Fields := [("name", f.name), ("rollenart", f.kind)]

/-- Roles, ordered by name. -/
def list (limits : Option PageLimits) (f : Filter) (w : Window) : Service (Page Role) :=
  Listing.page .roles limits f.criteria ["name"] w

end SchoolRegistry.Roles
