import SchoolRegistry.Entity.Header

/-!
# Assignments

The assignment of a role to a person at one organisation. The three identifiers
together are its key; no two stored assignments share one. The stamp of the
last change doubles as the revision that bulk updates check.
-/

namespace SchoolRegistry

/-- The key of an assignment. -/
structure Assignment.Key where
  personId : String
  organisationId : String
  roleId : String
deriving DecidableEq

/-- An assignment of a role to a person at an organisation. -/
structure Assignment extends Header where
  personId : String
  organisationId : String
  roleId : String
deriving DecidableEq

namespace Assignment

/-- The key of the assignment. -/
def key (a : Assignment) : Key := ⟨a.personId, a.organisationId, a.roleId⟩

/-- A new assignment with the given key. -/
def ofKey (k : Key) : Assignment := ⟨.blank, k.personId, k.organisationId, k.roleId⟩

/-- The assignment that reading starts from; its fields are all required. -/
def blank : Assignment := ⟨.blank, "", "", ""⟩

/-- The fields of an assignment. -/
def shape : Shape Assignment where
  blank := blank
  fields := Header.fieldsWithin (·.toHeader) (fun h s => { s with toHeader := h })
      (fun _ => rfl) ++ [
    .needed "person_id" .text (·.personId) (fun a s => { s with personId := a }) fun _ => rfl,
    .needed "organisation_id" .text (·.organisationId)
      (fun a s => { s with organisationId := a }) fun _ => rfl,
    .needed "rolle_id" .text (·.roleId) (fun a s => { s with roleId := a }) fun _ => rfl]

end Assignment

instance : Entity Assignment where
  model := { Model.simple "Personenkontext" Assignment.shape with
    derived := "key" :: Entity.derivedNames }
  header := (·.toHeader)
  setHeader h s := { s with toHeader := h }
  header_setHeader _ _ := rfl
  setHeader_header _ := rfl
  setHeader_setHeader _ _ _ := rfl

end SchoolRegistry
