import SchoolRegistry.Registry.OrganisationRules

/-!
# Rules for assignments

What an assignment must satisfy before it is stored. At a class only teaching
and learning roles can be assigned, and only to persons who have the same role
at the school of the class. Whatever cannot be found makes a rule unsatisfied.
-/

namespace SchoolRegistry.AssignmentRules

/-- A rule about assignments from its check. -/
def rule (label name : String) (check : Assignment → Service Bool) : Rule Service Assignment :=
  .plain label name (Entity.name Assignment) fun a => do
    let yes ← check a
    pure (.flag yes)

/-- The organisation with an identifier. -/
def organisation (id : String) : Service (Option Organisation) :=
  Service.ask (.get .organisations id)

/-- The role with an identifier. -/
def role (id : String) : Service (Option Role) := Service.ask (.get .roles id)

/-- Whether a role can be assigned at a class. -/
def fitsClass (r : Role) : Bool := r.kind == some .teacher || r.kind == some .learner

/-- At a class the role teaches or learns. -/
def teachesOrLearnsAtClass (a : Assignment) : Service Bool := do
  match ← organisation a.organisationId with
  | none => pure false
  | some o =>
    if OrganisationRules.isClass o then
      let found ← role a.roleId
      pure (found.any fitsClass)
    else pure true

/-- The query for the assignments of a person. -/
def ofPersonQuery (personId : String) : Query :=
  Query.all.restrict .all [("person_id", .text personId)]

/-- The assignments of a person. -/
def ofPerson (personId : String) : Service (List Assignment) := do
  let found : Counted Assignment ← Service.ask (.query .assignments (ofPersonQuery personId))
  pure found.items

/-- Whether one of the assignments is at the school and has the role. The
search ends with the first one at the school whose role has it or is missing. -/
def hasRoleAt (school : Option String) (roleId : String) : List Assignment → Service Bool
  | [] => pure false
  | a :: rest =>
    if some a.organisationId == school then do
      match ← role a.roleId with
      | none => pure false
      | some r => if r.id == some roleId then pure true else hasRoleAt school roleId rest
    else hasRoleAt school roleId rest

/-- At a class the person has the same role as at its school. -/
def sameRoleAtSchool (a : Assignment) : Service Bool := do
  match ← organisation a.organisationId with
  | none => pure false
  | some o =>
    if OrganisationRules.isClass o then
      match o.administeredBy with
      | none => pure false
      | some id =>
        match ← organisation id with
        | none => pure false
        | some school => do
          let held ← ofPerson a.personId
          hasRoleAt school.id a.roleId held
    else pure true

/-- Only teaching and learning roles at a class. -/
def onlyTeachersAndLearnersAtClass : Rule Service Assignment :=
  rule "OnlyTeachersAndLearnersAtClass" "NUR_LEHR_UND_LERN_AN_KLASSE" teachesOrLearnsAtClass

/-- The same role at a class as at its school. -/
def sameRoleAtClassAsSchool : Rule Service Assignment :=
  rule "SameRoleAtClassAsSchool" "GLEICHE_ROLLE_AN_KLASSE_WIE_SCHULE" sameRoleAtSchool

/-- The rules in the order in which they are checked. -/
def all : List (Rule Service Assignment) :=
  [onlyTeachersAndLearnersAtClass, sameRoleAtClassAsSchool]

end SchoolRegistry.AssignmentRules
