import SchoolRegistry.Vocabulary

/-!
# The terms of the registry

The kinds of organisations and roles, the marks a role may carry and the rights
it may grant.
-/

namespace SchoolRegistry

/-- What an organisation is. -/
inductive OrganisationKind where
  /-- The top of the structure. -/
  | root
  /-- A state. -/
  | state
  /-- A body that maintains schools. -/
  | carrier
  /-- A school. -/
  | school
  /-- A class of a school. -/
  | schoolClass
  /-- A provider of services. -/
  | provider
  /-- Any other organisation or institution. -/
  | other
  /-- An organisation whose kind is not confirmed yet. -/
  | unconfirmed
deriving DecidableEq

/-- The text by which a term is exchanged. -/
def OrganisationKind.text : OrganisationKind → String
  | .root => "ROOT"
  | .state => "LAND"
  | .carrier => "TRAEGER"
  | .school => "SCHULE"
  | .schoolClass => "KLASSE"
  | .provider => "ANBIETER"
  | .other => "SONSTIGE ORGANISATION / EINRICHTUNG"
  | .unconfirmed => "UNBESTAETIGT"

/-- The label of a term in messages. -/
def OrganisationKind.label : OrganisationKind → String
  | .root => "ROOT"
  | .state => "LAND"
  | .carrier => "TRAEGER"
  | .school => "SCHULE"
  | .schoolClass => "KLASSE"
  | .provider => "ANBIETER"
  | .other => "SONSTIGE"
  | .unconfirmed => "UNBESTAETIGT"

instance : Vocabulary OrganisationKind where
  family := "OrganisationsTyp"
  all := [.root, .state, .carrier, .school, .schoolClass, .provider, .other, .unconfirmed]
  text := OrganisationKind.text
  label := OrganisationKind.label
  complete a := by cases a <;> simp
  text_injective a b h := by cases a <;> cases b <;> simp_all [OrganisationKind.text]

/-- What a role is. -/
inductive RoleKind where
  /-- Someone who learns. -/
  | learner
  /-- Someone who teaches. -/
  | teacher
  /-- Someone from outside. -/
  | external
  /-- Someone who administers an organisation. -/
  | organisationAdmin
  /-- Someone who leads an organisation. -/
  | head
  /-- Someone who administers the system. -/
  | systemAdmin
deriving DecidableEq

/-- The text of a term, which is also its label. -/
def RoleKind.text : RoleKind → String
  | .learner => "LERN"
  | .teacher => "LEHR"
  | .external => "EXTERN"
  | .organisationAdmin => "ORGADMIN"
  | .head => "LEIT"
  | .systemAdmin => "SYSADMIN"

instance : Vocabulary RoleKind where
  family := "RollenArt"
  all := [.learner, .teacher, .external, .organisationAdmin, .head, .systemAdmin]
  text := RoleKind.text
  label := RoleKind.text
  complete a := by cases a <;> simp
  text_injective a b h := by cases a <;> cases b <;> simp_all [RoleKind.text]

/-- A property that a role imposes on its assignments. -/
inductive RoleMark where
  /-- The assignment must end at some time. -/
  | limitedTerm
  /-- The person needs a personnel number. -/
  | personnelNumber
deriving DecidableEq

/-- The text of a term, which is also its label. -/
def RoleMark.text : RoleMark → String
  | .limitedTerm => "BEFRISTUNG_PFLICHT"
  | .personnelNumber => "KOPERS_PFLICHT"

instance : Vocabulary RoleMark where
  family := "RollenMerkmal"
  all := [.limitedTerm, .personnelNumber]
  text := RoleMark.text
  label := RoleMark.text
  complete a := by cases a <;> simp
  text_injective a b h := by cases a <;> cases b <;> simp_all [RoleMark.text]

/-- A right that a role grants. -/
inductive SystemRight where
  | manageRoles
  | deletePersonsAtOnce
  | managePersons
  | manageSchools
  | manageClasses
  | manageCarriers
  | runMigration
  | synchronisePersons
deriving DecidableEq

/-- The text of a term, which is also its label. -/
def SystemRight.text : SystemRight → String
  | .manageRoles => "ROLLEN_VERWALTEN"
  | .deletePersonsAtOnce => "PERSONEN_SOFORT_LOESCHEN"
  | .managePersons => "PERSONEN_VERWALTEN"
  | .manageSchools => "SCHULEN_VERWALTEN"
  | .manageClasses => "KLASSEN_VERWALTEN"
  | .manageCarriers => "SCHULTRAEGER_VERWALTEN"
  | .runMigration => "MIGRATION_DURCHFUEHREN"
  | .synchronisePersons => "PERSON_SYNCHRONISIEREN"

instance : Vocabulary SystemRight where
  family := "RollenSystemRecht"
  all := [.manageRoles, .deletePersonsAtOnce, .managePersons, .manageSchools, .manageClasses,
    .manageCarriers, .runMigration, .synchronisePersons]
  text := SystemRight.text
  label := SystemRight.text
  complete a := by cases a <;> simp
  text_injective a b h := by cases a <;> cases b <;> simp_all [SystemRight.text]

end SchoolRegistry
