import SchoolRegistry.Record.Model
import SchoolRegistry.Validation.Report

/-!
# Errors for clients

What clients are told when something is refused: a status, a subcode and two
texts. Only the kind of a refusal decides, except for attributes: a date that
cannot be read is told apart from other faulty attributes and named by its
path. Whatever has no entry of its own becomes an internal error.
-/

namespace SchoolRegistry

/-- An error as clients receive it. -/
structure ClientError where
  status : Int
  subcode : String
  title : String
  description : String
deriving DecidableEq

namespace ClientError

/-- The fields of an error. -/
def shape : Shape ClientError where
  blank := ⟨0, "", "", ""⟩
  fields := [
    .of "status_code" "statusCode" true .whole (·.status)
      (fun a s => { s with status := a }) fun _ => rfl,
    .needed "subcode" .text (·.subcode) (fun a s => { s with subcode := a }) fun _ => rfl,
    .needed "title" .text (·.title) (fun a s => { s with title := a }) fun _ => rfl,
    .needed "description" .text (·.description)
      (fun a s => { s with description := a }) fun _ => rfl]

/-- The model of an error; errors cannot be changed. -/
def model : Model ClientError := { Model.simple "SchulConnexError" shape with frozen := true }

/-- The error as it is sent. -/
def payload (e : ClientError) : Fields := shape.wireValues e

/-! ## The errors of the registry -/

/-- Something went wrong that is not the client's fault. -/
def internal : ClientError where
  status := 500
  subcode := "00"
  title := "Interner Serverfehler"
  description := "Es ist ein interner Fehler aufgetreten. "
    ++ "Der aufgetretene Fehler konnte nicht verarbeitet werden"

/-- The request is faulty. -/
def badRequest : ClientError where
  status := 400
  subcode := "00"
  title := "Fehlerhafte Anfrage"
  description := "Die Anfrage ist fehlerhaft"

/-- A date of the request cannot be read. -/
def badDate (path : String) : ClientError where
  status := 400
  subcode := "09"
  title := "Datumsattribut hat einen ungültigen Wert"
  description := "Datumsformat von Attribut " ++ path ++ " ist ungültig"

/-- The error for a kind of refusal. -/
def ofKind : RefusalKind → ClientError
  | .notFound => {
      status := 404
      subcode := "01"
      title := "Angefragte Entität existiert nicht"
      description := "Die angeforderte Entität existiert nicht" }
  | .alreadyExists => {
      status := 400
      subcode := "00"
      title := "Entität existiert bereits"
      description := "Die Entität existiert bereits" }
  | .revisionMismatch => {
      status := 409
      subcode := "00"
      title := "Konflikt mit dem aktuellen Zustand der Ressource"
      description := "Die Entität wurde zwischenzeitlich geändert" }
  | .ruleViolated => {
      status := 400
      subcode := "00"
      title := "Spezifikation nicht erfüllt"
      description := "Eine Spezifikation der Entität wurde nicht erfüllt" }
  | .notCreated => internal
  | .notUpdated => internal
  | .notDeleted => internal
  | .invalidAttribute => internal

/-- The names of the constraints that say a value is no date: the one of field
rules, and those of the faults of client data. -/
def dateConstraints : List String :=
  Constraint.isDate.text :: [
    FaultCode.dateType, .dateParsing, .dateFromDatetimeParsing, .dateFromDatetimeInexact,
    .datetimeType, .datetimeParsing, .datetimeFromDateParsing].map FaultCode.text

/-- Whether a constraint says that a value is no date. -/
def isDateConstraint (constraint : String) : Bool := dateConstraints.contains constraint

/-- The error for an attribute that breaks a constraint. -/
def ofAttribute (path constraint : String) : ClientError :=
  if isDateConstraint constraint then badDate path else badRequest

/-- The error for a refusal. -/
def ofRefusal : Refusal → ClientError
  | .invalidAttribute _ path constraint _ => ofAttribute path constraint
  | r => ofKind r.kind

/-- The error for the first failure of a report. -/
def ofReport (r : Report) : Except Failure ClientError :=
  if r.isValid then .ok badRequest else r.first.map fun f => ofAttribute f.1 f.2

end ClientError

end SchoolRegistry
