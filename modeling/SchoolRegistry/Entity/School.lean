import SchoolRegistry.Entity.Header

/-!
# Schools

A school as the directory of schools lists it. Its kind is any text, unlike the
kind of an organisation.
-/

namespace SchoolRegistry

/-- An entry of the directory of schools. -/
structure School extends Header where
  identifier : Option String
  name : Option String
  kind : Option String
deriving DecidableEq

namespace School

/-- A school of which nothing is known. -/
def blank : School := ⟨.blank, none, none, none⟩

/-- The fields of a school. -/
def shape : Shape School where
  blank := blank
  fields := Header.fieldsWithin (·.toHeader) (fun h s => { s with toHeader := h })
      (fun _ => rfl) ++ [
    .plain "kennung" .text? (·.identifier)
      (fun a s => { s with identifier := a }) fun _ => rfl,
    .plain "name" .text? (·.name)
      (fun a s => { s with name := a }) fun _ => rfl,
    .plain "typ" .text? (·.kind)
      (fun a s => { s with kind := a }) fun _ => rfl]

end School

instance : Entity School where
  model := { Model.simple "Schule" School.shape with derived := Entity.derivedNames }
  header := (·.toHeader)
  setHeader h s := { s with toHeader := h }
  header_setHeader _ _ := rfl
  setHeader_header _ := rfl
  setHeader_setHeader _ _ _ := rfl

end SchoolRegistry
