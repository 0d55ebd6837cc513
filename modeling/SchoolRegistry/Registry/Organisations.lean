import SchoolRegistry.Registry.Creation
import SchoolRegistry.Registry.Listing
import SchoolRegistry.Registry.OrganisationRules

/-!
# The service for organisations

Creates organisations under the rules and lists them. A failure of the store
during a creation is a refusal; during a look-up it reaches the caller.
-/

namespace SchoolRegistry.Organisations

/-- The logger of the service. -/
def logger : String := "dbiam.domain.organisation"

/-- The kind of an organisation as messages show it. -/
def shownKind (kind : Option OrganisationKind) : String :=
  match kind with
  | some k => (Choice.organisationKind k).fullName
  | none => "None"

/-- Stores an organisation. -/
def store (o : Organisation) : Service (Outcome Organisation) := do
  let saved : Organisation ← Service.ask (.save .organisations o)
  Journal.note ⟨logger, .info, "Created organisation " ++ Creation.shownText saved.id ++ " ("
    ++ shownKind saved.kind ++ ")"⟩
  pure (.ok saved)

/-- Creates an organisation. -/
def create (o : Organisation) : Service (Outcome Organisation) :=
  Creation.checkFields organisationFieldRules o <|
    Creation.orNotCreated logger
      ("Organisation " ++ Creation.shownText o.identifier ++ " could not be stored")
      (Entity.name Organisation) <|
      Creation.checkRules OrganisationRules.all o (store o)

/-- The organisation with an identifier. -/
def find (id : String) : Service (Outcome Organisation) := Listing.byId .organisations id

/-- What a listing of organisations may demand; a missing value demands
nothing. -/
structure Filter where
  identifier : Value
  name : Value
  kind : Value

/-- The criteria of a filter. -/
def Filter.criteria (f : Filter) : Fields :=
  [("kennung", f.identifier), ("name", f.name), ("typ", f.kind)]

/-- Organisations, ordered by identifier. -/
def list (limits : Option PageLimits) (f : Filter) (w : Window) : Service (Page Organisation) :=
  Listing.page .organisations limits f.criteria ["kennung"] w

/-- The organisations that one administers, ordered by name. -/
def administeredBy (limits : Option PageLimits) (id : String) (w : Window) :
    Service (Outcome (Page Organisation)) := do
  match ← find id with
  | .error r => pure (.error r)
  | .ok _ => do
    let page ← Listing.page .organisations limits [("administriert_von", .text id)] ["name"] w
    pure (.ok page)

end SchoolRegistry.Organisations
