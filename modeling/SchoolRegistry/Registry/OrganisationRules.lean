import SchoolRegistry.Rule.Presence
import SchoolRegistry.Store.Program

/-!
# Rules for organisations

What an organisation must satisfy before it is stored. Two of the rules look at
the organisation alone, the other two at the stored ones: a class is
administered by a school, and its name is unique there. An organisation that is
missing makes a rule unsatisfied; it is no failure.
-/

namespace SchoolRegistry.OrganisationRules

/-- A rule about organisations from its check. -/
def rule (label name : String) (check : Organisation → Service Bool) :
    Rule Service Organisation :=
  .plain label name (Entity.name Organisation) fun o => do
    let yes ← check o
    pure (.flag yes)

/-- Whether an organisation is a class. -/
def isClass (o : Organisation) : Bool := o.kind == some .schoolClass

/-- The organisation that administers a class exists and is a school. -/
def administeredBySchool (o : Organisation) : Service Bool :=
  if isClass o then
    match o.administeredBy with
    | none => pure false
    | some id => do
      let parent : Option Organisation ← Service.ask (.get .organisations id)
      pure (parent.any fun p => p.kind == some .school)
  else pure true

/-- The query for the classes of a name that an organisation administers. -/
def sameNameQuery (parent name : String) : Query :=
  Query.all.restrict .all [
    ("typ", .choice (.organisationKind .schoolClass)),
    ("administriert_von", .text parent),
    ("name", .text name)]

/-- No other class of the same organisation has the name. -/
def nameUniqueAtSchool (o : Organisation) : Service Bool :=
  if isClass o then
    match o.administeredBy, o.name with
    | some parent, some name => do
      let found : Counted Organisation ←
        Service.ask (.query .organisations (sameNameQuery parent name))
      pure (found.items.all fun c => c.id == o.id)
    | _, _ => pure true
  else pure true

/-- A class is administered by a school. -/
def classAdministeredBySchool : Rule Service Organisation :=
  rule "ClassAdministeredBySchool" "KLASSE_NUR_VON_SCHULE_ADMINISTRIERT" administeredBySchool

/-- The name of a class is unique at its school. -/
def classNameUniqueAtSchool : Rule Service Organisation :=
  rule "ClassNameUniqueAtSchool" "KLASSENNAME_AN_SCHULE_EINDEUTIG" nameUniqueAtSchool

/-- The rules in the order in which they are checked. -/
def all : List (Rule Service Organisation) := [
  Presence.identifierRequiredForSchool Entity.toValue,
  Presence.nameRequiredForClass Entity.toValue,
  classAdministeredBySchool,
  classNameUniqueAtSchool]

end SchoolRegistry.OrganisationRules
