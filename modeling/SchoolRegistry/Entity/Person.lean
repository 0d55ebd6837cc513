import SchoolRegistry.Entity.Header

/-!
# Persons

A natural person. The referrer is the identifier that the person carries in the
directory it comes from; no two stored persons share one.
-/

namespace SchoolRegistry

/-- A person. -/
structure Person extends Header where
  referrer : Option String
  firstName : Option String
  familyName : Option String
  birthDate : Option Date
  informationBlocked : Bool
deriving DecidableEq

namespace Person

/-- A person of whom nothing is known. -/
def blank : Person := ⟨.blank, none, none, none, none, false⟩

/-- The fields of a person. -/
def shape : Shape Person where
  blank := blank
  fields := Header.fieldsWithin (·.toHeader) (fun h s => { s with toHeader := h })
      (fun _ => rfl) ++ [
    .plain "referrer" .text? (·.referrer)
      (fun a s => { s with referrer := a }) fun _ => rfl,
    .plain "vorname" .text? (·.firstName)
      (fun a s => { s with firstName := a }) fun _ => rfl,
    .plain "familienname" .text? (·.familyName)
      (fun a s => { s with familyName := a }) fun _ => rfl,
    .plain "geburtsdatum" .day? (·.birthDate)
      (fun a s => { s with birthDate := a }) fun _ => rfl,
    .plain "is_information_blocked" .flag (·.informationBlocked)
      (fun a s => { s with informationBlocked := a }) fun _ => rfl]

end Person

instance : Entity Person where
  model := { Model.simple "Person" Person.shape with derived := Entity.derivedNames }
  header := (·.toHeader)
  setHeader h s := { s with toHeader := h }
  header_setHeader _ _ := rfl
  setHeader_header _ := rfl
  setHeader_setHeader _ _ _ := rfl

end SchoolRegistry
