import SchoolRegistry.Vocabulary.Control
import SchoolRegistry.Vocabulary.Registry

/-!
# Terms of any vocabulary

A term as a dynamic value carries it: together with the vocabulary it is from.
-/

namespace SchoolRegistry

/-- A term of one of the vocabularies. -/
inductive Choice where
  | organisationKind (term : OrganisationKind)
  | roleKind (term : RoleKind)
  | roleMark (term : RoleMark)
  | systemRight (term : SystemRight)
  | deployStage (term : DeployStage)
  | refusalKind (term : RefusalKind)
  | constraint (term : Constraint)
  | connective (term : Connective)
  | direction (term : Direction)
deriving DecidableEq

namespace Choice

/-- The text by which the term is exchanged. -/
def text : Choice → String
  | organisationKind t => t.text
  | roleKind t => t.text
  | roleMark t => t.text
  | systemRight t => t.text
  | deployStage t => t.text
  | refusalKind t => t.text
  | constraint t => t.text
  | connective t => t.text
  | direction t => t.text

/-- The name by which messages call the vocabulary of the term. -/
def family : Choice → String
  | organisationKind _ => Vocabulary.family OrganisationKind
  | roleKind _ => Vocabulary.family RoleKind
  | roleMark _ => Vocabulary.family RoleMark
  | systemRight _ => Vocabulary.family SystemRight
  | deployStage _ => Vocabulary.family DeployStage
  | refusalKind _ => Vocabulary.family RefusalKind
  | constraint _ => Vocabulary.family Constraint
  | connective _ => Vocabulary.family Connective
  | direction _ => Vocabulary.family Direction

/-- The label of the term in messages. -/
def label : Choice → String
  | organisationKind t => Vocabulary.label t
  | roleKind t => Vocabulary.label t
  | roleMark t => Vocabulary.label t
  | systemRight t => Vocabulary.label t
  | deployStage t => Vocabulary.label t
  | refusalKind t => Vocabulary.label t
  | constraint t => Vocabulary.label t
  | connective t => Vocabulary.label t
  | direction t => Vocabulary.label t

/-- The terms of all vocabularies. -/
def all : List Choice :=
  (Vocabulary.all : List OrganisationKind).map organisationKind
    ++ (Vocabulary.all : List RoleKind).map roleKind
    ++ (Vocabulary.all : List RoleMark).map roleMark
    ++ (Vocabulary.all : List SystemRight).map systemRight
    ++ (Vocabulary.all : List DeployStage).map deployStage
    ++ (Vocabulary.all : List RefusalKind).map refusalKind
    ++ (Vocabulary.all : List Constraint).map constraint
    ++ (Vocabulary.all : List Connective).map connective
    ++ (Vocabulary.all : List Direction).map direction

/-- The name of a term in messages: its vocabulary and its label. -/
def fullName (c : Choice) : String := c.family ++ "." ++ c.label

/-- The term that messages call by the given name. -/
def ofFullName? (s : String) : Option Choice := all.find? fun c => c.fullName == s

end Choice

/-- A vocabulary whose terms can be dynamic values. -/
class Selectable (α : Type) extends Vocabulary α where
  /-- The term as a choice. -/
  choose : α → Choice
  /-- The term of this vocabulary that a choice is. -/
  chosen? : Choice → Option α
  chosen?_choose : ∀ a, chosen? (choose a) = some a

instance : Selectable OrganisationKind where
  choose := .organisationKind
  chosen?
    | .organisationKind t => some t
    | _ => none
  chosen?_choose _ := rfl

instance : Selectable RoleKind where
  choose := .roleKind
  chosen?
    | .roleKind t => some t
    | _ => none
  chosen?_choose _ := rfl

instance : Selectable RoleMark where
  choose := .roleMark
  chosen?
    | .roleMark t => some t
    | _ => none
  chosen?_choose _ := rfl

instance : Selectable SystemRight where
  choose := .systemRight
  chosen?
    | .systemRight t => some t
    | _ => none
  chosen?_choose _ := rfl

instance : Selectable DeployStage where
  choose := .deployStage
  chosen?
    | .deployStage t => some t
    | _ => none
  chosen?_choose _ := rfl

instance : Selectable Connective where
  choose := .connective
  chosen?
    | .connective t => some t
    | _ => none
  chosen?_choose _ := rfl

instance : Selectable Direction where
  choose := .direction
  chosen?
    | .direction t => some t
    | _ => none
  chosen?_choose _ := rfl

end SchoolRegistry
