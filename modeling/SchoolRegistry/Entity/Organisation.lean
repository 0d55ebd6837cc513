import SchoolRegistry.Entity.Header

/-!
# Organisations

A node of the school structure: a state, a school, a class of a school. It may
point at the organisation that administers it, which for a class is its school,
and at the one it belongs to.
-/

namespace SchoolRegistry

/-- An organisation. -/
structure Organisation extends Header where
  identifier : Option String
  name : Option String
  nameAddition : Option String
  shortName : Option String
  kind : Option OrganisationKind
  administeredBy : Option String
  belongsTo : Option String
deriving DecidableEq

namespace Organisation

/-- An organisation of which nothing is known. -/
def blank : Organisation := ⟨.blank, none, none, none, none, none, none, none⟩

/-- The fields of an organisation. -/
def shape : Shape Organisation where
  blank := blank
  fields := Header.fieldsWithin (·.toHeader) (fun h s => { s with toHeader := h })
      (fun _ => rfl) ++ [
    .plain "kennung" .text? (·.identifier)
      (fun a s => { s with identifier := a }) fun _ => rfl,
    .plain "name" .text? (·.name)
      (fun a s => { s with name := a }) fun _ => rfl,
    .plain "namensergaenzung" .text? (·.nameAddition)
      (fun a s => { s with nameAddition := a }) fun _ => rfl,
    .plain "kuerzel" .text? (·.shortName)
      (fun a s => { s with shortName := a }) fun _ => rfl,
    .plain "typ" (.term? OrganisationKind) (·.kind)
      (fun a s => { s with kind := a }) fun _ => rfl,
    .plain "administriert_von" .text? (·.administeredBy)
      (fun a s => { s with administeredBy := a }) fun _ => rfl,
    .plain "zugehoerig_zu" .text? (·.belongsTo)
      (fun a s => { s with belongsTo := a }) fun _ => rfl]

end Organisation

instance : Entity Organisation where
  model := { Model.simple "Organisation" Organisation.shape with derived := Entity.derivedNames }
  header := (·.toHeader)
  setHeader h s := { s with toHeader := h }
  header_setHeader _ _ := rfl
  setHeader_header _ := rfl
  setHeader_setHeader _ _ _ := rfl

end SchoolRegistry
