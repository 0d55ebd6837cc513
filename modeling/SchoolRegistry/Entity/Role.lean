import SchoolRegistry.Entity.Header

/-!
# Roles

A role that persons can be assigned at organisations, with the marks it imposes
and the rights it grants.
-/

namespace SchoolRegistry

/-- A role. -/
structure Role extends Header where
  name : Option String
  administeredBy : Option String
  kind : Option RoleKind
  marks : List RoleMark
  rights : List SystemRight
deriving DecidableEq

namespace Role

/-- A role of which nothing is known. -/
def blank : Role := ⟨.blank, none, none, none, [], []⟩

/-- Whether the role grants a right. -/
def grants (r : Role) (right : SystemRight) : Bool := r.rights.contains right

/-- The rights that the role grants, in the order of the vocabulary. -/
def granted (r : Role) : List SystemRight :=
  (Vocabulary.all : List SystemRight).filter r.grants

/-- The fields of a role. -/
def shape : Shape Role where
  blank := blank
  fields := Header.fieldsWithin (·.toHeader) (fun h s => { s with toHeader := h })
      (fun _ => rfl) ++ [
    .plain "name" .text? (·.name)
      (fun a s => { s with name := a }) fun _ => rfl,
    .plain "administered_by_schulstrukturknoten" .text? (·.administeredBy)
      (fun a s => { s with administeredBy := a }) fun _ => rfl,
    .plain "rollenart" (.term? RoleKind) (·.kind)
      (fun a s => { s with kind := a }) fun _ => rfl,
    .plain "merkmale" (.list (.term RoleMark)) (·.marks)
      (fun a s => { s with marks := a }) fun _ => rfl,
    .plain "systemrechte" (.list (.term SystemRight)) (·.rights)
      (fun a s => { s with rights := a }) fun _ => rfl]

end Role

instance : Entity Role where
  model := { Model.simple "Rolle" Role.shape with derived := Entity.derivedNames }
  header := (·.toHeader)
  setHeader h s := { s with toHeader := h }
  header_setHeader _ _ := rfl
  setHeader_header _ := rfl
  setHeader_setHeader _ _ _ := rfl

end SchoolRegistry
