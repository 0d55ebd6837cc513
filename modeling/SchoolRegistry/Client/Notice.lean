import SchoolRegistry.Record.Model
import SchoolRegistry.Rule.Basic

/-!
# Notices about violated rules

What clients are told when a rule of the registry does not hold: a code, a key
under which other languages have its wording, and two texts. A rule without a
notice of its own gets one for the family of its entity, and the log records
that the notice is missing.
-/

namespace SchoolRegistry

/-- A notice about a violated rule. -/
structure RuleNotice where
  code : Int
  key : String
  title : String
  description : String
deriving DecidableEq

namespace RuleNotice

/-- The fields of a notice. -/
def shape : Shape RuleNotice where
  blank := ⟨0, "", "", ""⟩
  fields := [
    .needed "code" .whole (·.code) (fun a s => { s with code := a }) fun _ => rfl,
    .of "i18n_key" "i18nKey" true .text (·.key) (fun a s => { s with key := a }) fun _ => rfl,
    .needed "titel" .text (·.title) (fun a s => { s with title := a }) fun _ => rfl,
    .needed "beschreibung" .text (·.description)
      (fun a s => { s with description := a }) fun _ => rfl]

/-- The model of a notice; notices cannot be changed. -/
def model : Model RuleNotice :=
  { Model.simple "DbiamSpecificationError" shape with frozen := true }

/-- The notice as it is sent. -/
def payload (n : RuleNotice) : Fields := shape.wireValues n

/-! ## The notices of the registry -/

/-- The title of notices about organisations. -/
def organisationTitle : String := "Spezifikation von Organisation nicht erfüllt"

/-- The title of notices about assignments. -/
def assignmentTitle : String := "Spezifikation von Personenkontext nicht erfüllt"

/-- The title of notices about roles. -/
def roleTitle : String := "Spezifikation von Rolle nicht erfüllt"

/-- The title of notices about bulk updates. -/
def updateTitle : String := "Aktualisierung der Personenkontexte nicht möglich"

/-- The key of notices about bulk updates. -/
def updateKey : String := "PERSONENKONTEXTE_UPDATE_ERROR"

/-- The notices with an entry of their own, under the names of their rules. -/
def known : List (String × RuleNotice) := [
  ("KENNUNG_REQUIRED_FOR_SCHULE", {
    code := 400
    key := "KENNUNG_REQUIRED_FOR_SCHULE"
    title := organisationTitle
    description := "Eine Schule muss eine Kennung besitzen." }),
  ("NAME_REQUIRED_FOR_KLASSE", {
    code := 400
    key := "NAME_REQUIRED_FOR_KLASSE"
    title := organisationTitle
    description := "Eine Klasse muss einen Namen besitzen." }),
  ("KLASSE_NUR_VON_SCHULE_ADMINISTRIERT", {
    code := 400
    key := "KLASSE_NUR_VON_SCHULE_ADMINISTRIERT"
    title := organisationTitle
    description := "Eine Klasse kann nur von einer Schule administriert werden." }),
  ("KLASSENNAME_AN_SCHULE_EINDEUTIG", {
    code := 400
    key := "KLASSENNAME_AN_SCHULE_EINDEUTIG"
    title := organisationTitle
    description := "Der Name einer Klasse muss innerhalb der Schule eindeutig sein." }),
  ("NUR_LEHR_UND_LERN_AN_KLASSE", {
    code := 400
    key := "NUR_LEHR_UND_LERN_AN_KLASSE"
    title := assignmentTitle
    description := "Nur Lehrer und Lernende können Klassen zugeordnet werden." }),
  ("GLEICHE_ROLLE_AN_KLASSE_WIE_SCHULE", {
    code := 400
    key := "GLEICHE_ROLLE_AN_KLASSE_WIE_SCHULE"
    title := assignmentTitle
    description := "Die Rollenart der Person muss für die Klasse dieselbe sein wie an der "
      ++ "zugehörigen Schule." }),
  ("PERSON_ID_MISMATCH", {
    code := 400
    key := updateKey
    title := updateTitle
    description := "Alle Personenkontexte müssen dieselbe Person betreffen." }),
  ("INVALID_PERSONENKONTEXT_COUNT", {
    code := 400
    key := updateKey
    title := updateTitle
    description :=
      "Die Anzahl der Personenkontexte stimmt nicht mit dem gespeicherten Stand überein." }),
  ("NAME_MIT_LEERZEICHEN", {
    code := 400
    key := "NAME_MIT_LEERZEICHEN"
    title := roleTitle
    description := "Der Name einer Rolle darf nicht mit Leerzeichen beginnen oder enden." })]

/-- Key and title of the notices for rules without an entry. -/
def family (entity : String) : String × String :=
  if entity == "Organisation" then ("ORGANISATION_SPECIFICATION_ERROR", organisationTitle)
  else if entity == "Personenkontext" then ("PERSONENKONTEXT_SPECIFICATION_ERROR", assignmentTitle)
  else if entity == "Rolle" then ("ROLLE_SPECIFICATION_ERROR", roleTitle)
  else ("SPECIFICATION_ERROR", "Spezifikation nicht erfüllt")

/-- The notice for a rule without an entry. -/
def fallback (entity : String) : RuleNotice where
  code := 500
  key := (family entity).1
  title := (family entity).2
  description := "Eine Spezifikation für " ++ entity ++ " wurde nicht erfüllt, "
    ++ "der Fehler konnte jedoch nicht zugeordnet werden."

/-- The record that a rule has no entry. -/
def missingEntry (rule : String) : LogRecord :=
  ⟨"dbiam.schulconnex", .warning, "No error entry for rule " ++ rule⟩

/-- The notice for a violated rule of an entity, and the records written while
it is looked up. -/
def ofViolation (rule entity : String) : RuleNotice × List LogRecord :=
  match known.lookup rule with
  | some n => (n, [])
  | none => (fallback entity, [missingEntry rule])

end RuleNotice

end SchoolRegistry
