import SchoolRegistry.Registry.Creation
import SchoolRegistry.Registry.Listing

/-!
# The service for persons

Creates persons and lists them. No two persons share a referrer; a person
without one never collides with another.
-/

namespace SchoolRegistry.Persons

/-- The logger of the service. -/
def logger : String := "dbiam.domain.person"

/-- The query for a person with a referrer. -/
def referrerQuery (referrer : String) : Query :=
  (Query.all.restrict .all [("referrer", .text referrer)]).windowed (some 0) (some 1)

/-- Whether a stored person has the referrer. -/
def referrerTaken : Option String → Service Bool
  | none => pure false
  | some referrer => do
    let found : Counted Person ← Service.ask (.query .persons (referrerQuery referrer))
    pure (decide (0 < found.total))

/-- Stores a person. -/
def store (p : Person) : Service (Outcome Person) := do
  let saved : Person ← Service.ask (.save .persons p)
  Journal.note ⟨logger, .info, "Created person " ++ Creation.shownText saved.id⟩
  pure (.ok saved)

/-- Creates a person. -/
def create (p : Person) : Service (Outcome Person) :=
  Creation.checkFields personFieldRules p <|
    Creation.orNotCreated logger
      ("Person " ++ Creation.shownText p.referrer ++ " could not be stored") (Entity.name Person) do
      if ← referrerTaken p.referrer then
        Journal.note ⟨logger, .info,
          "Person with referrer " ++ Creation.shownText p.referrer ++ " already exists"⟩
        pure (.error (.alreadyExists (Entity.name Person) [("referrer", .ofText? p.referrer)] none))
      else store p

/-- The person with an identifier. -/
def find (id : String) : Service (Outcome Person) := Listing.byId .persons id

/-- What a listing of persons may demand; a missing value demands nothing. -/
structure Filter where
  referrer : Value
  firstName : Value
  familyName : Value
  informationBlocked : Value

/-- The criteria of a filter. -/
def Filter.criteria (f : Filter) : Fields :=
  [("referrer", f.referrer), ("vorname", f.firstName), ("familienname", f.familyName),
    ("is_information_blocked", f.informationBlocked)]

/-- Persons, ordered by family name and then by first name. -/
def list (limits : Option PageLimits) (f : Filter) (w : Window) : Service (Page Person) :=
  Listing.page .persons limits f.criteria ["familienname", "vorname"] w

end SchoolRegistry.Persons
