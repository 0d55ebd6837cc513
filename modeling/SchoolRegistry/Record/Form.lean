import SchoolRegistry.Record.Model

/-!
# Forms

Data that clients send and that are not stored themselves: the form about a
person with a nested part about the birth, and a period of time, whose end must
not lie before its start.
-/

namespace SchoolRegistry

/-! ## Births -/

/-- Day and place of a birth. -/
structure Birth where
  date : Option Date
  place : Option String
deriving DecidableEq

namespace Birth

/-- The fields of a birth. -/
def shape : Shape Birth where
  blank := ⟨none, none⟩
  fields := [
    .plain "datum" .day? (·.date) (fun a s => { s with date := a }) fun _ => rfl,
    .plain "ort" .text? (·.place) (fun a s => { s with place := a }) fun _ => rfl]

/-- What a birth shows is read as this birth. -/
theorem read_fieldValues (b : Birth) : shape.read (shape.fieldValues b) = .ok b := by
  obtain ⟨date, place⟩ := b
  cases date <;> cases place <;> rfl

/-- The model of a birth. -/
def model : Model Birth := .simple "Geburt" shape

end Birth

/-! ## Persons -/

/-- The form about a person. -/
structure PersonForm where
  firstName : Option String
  familyName : Option String
  birth : Option Birth
deriving DecidableEq

namespace PersonForm

/-- The fields of the form. -/
def shape : Shape PersonForm where
  blank := ⟨none, none, none⟩
  fields := [
    .plain "vorname" .text? (·.firstName)
      (fun a s => { s with firstName := a }) fun _ => rfl,
    .plain "familienname" .text? (·.familyName)
      (fun a s => { s with familyName := a }) fun _ => rfl,
    .plain "geburt" (.optional (.nested "Geburt" Birth.shape Birth.read_fieldValues) fun _ => rfl)
      (·.birth) (fun a s => { s with birth := a }) fun _ => rfl]

/-- The model of the form. -/
def model : Model PersonForm := .simple "PersonInput" shape

end PersonForm

/-! ## Periods -/

/-- A period of time. -/
structure Period where
  start : Moment
  finish : Moment
deriving DecidableEq

namespace Period

/-- The moment that reading starts from; both fields are required. -/
def blankMoment : Moment := .floating ⟨⟨1, 1, 1, by decide⟩, .midnight⟩

/-- The fields of a period. -/
def shape : Shape Period where
  blank := ⟨blankMoment, blankMoment⟩
  fields := [
    .needed "von" .moment (·.start) (fun a s => { s with start := a }) fun _ => rfl,
    .needed "bis" .moment (·.finish) (fun a s => { s with finish := a }) fun _ => rfl]

/-- The end must be comparable with the start and must not lie before it. -/
def check (p : Period) : Except Failure Unit :=
  match p.finish.compare? p.start with
  | none => .error .wrongType
  | some .lt => .error (.invalid [.here .valueError])
  | some _ => .ok ()

/-- The model of a period. -/
def model : Model Period := { Model.simple "Zeitraum" shape with check := check }

end Period

end SchoolRegistry
