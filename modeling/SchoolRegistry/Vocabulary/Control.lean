import SchoolRegistry.Vocabulary

/-!
# The terms of control

The terms that steer the program rather than describe a school: stages of
deployment, kinds of refusal, field constraints, and how the conditions and
sort keys of a query are combined.
-/

namespace SchoolRegistry

/-- Where the program runs. -/
inductive DeployStage where
  | test
  | development
  | production
deriving DecidableEq

/-- The text by which a term is exchanged. -/
def DeployStage.text : DeployStage → String
  | .test => "test"
  | .development => "dev"
  | .production => "prod"

/-- The label of a term in messages. -/
def DeployStage.label : DeployStage → String
  | .test => "TEST"
  | .development => "DEV"
  | .production => "PROD"

instance : Vocabulary DeployStage where
  family := "DeployStage"
  all := [.test, .development, .production]
  text := DeployStage.text
  label := DeployStage.label
  complete a := by cases a <;> simp
  text_injective a b h := by cases a <;> cases b <;> simp_all [DeployStage.text]

/-- Why an operation of the registry was refused. -/
inductive RefusalKind where
  | notFound
  | alreadyExists
  | notCreated
  | notUpdated
  | notDeleted
  | ruleViolated
  | revisionMismatch
  | invalidAttribute
deriving DecidableEq

/-- The text of a term, which is also its label. -/
def RefusalKind.text : RefusalKind → String
  | .notFound => "NOT_FOUND"
  | .alreadyExists => "ALREADY_EXISTS"
  | .notCreated => "COULD_NOT_BE_CREATED"
  | .notUpdated => "COULD_NOT_BE_UPDATED"
  | .notDeleted => "COULD_NOT_BE_DELETED"
  | .ruleViolated => "SPECIFICATION_VIOLATED"
  | .revisionMismatch => "MISMATCHED_REVISION"
  | .invalidAttribute => "INVALID_ATTRIBUTE"

instance : Vocabulary RefusalKind where
  family := "DomainErrorKind"
  all := [.notFound, .alreadyExists, .notCreated, .notUpdated, .notDeleted, .ruleViolated,
    .revisionMismatch, .invalidAttribute]
  text := RefusalKind.text
  label := RefusalKind.text
  complete a := by cases a <;> simp
  text_injective a b h := by cases a <;> cases b <;> simp_all [RefusalKind.text]

/-- What a field rule demands of a value. -/
inductive Constraint where
  /-- There is a value. -/
  | required
  /-- The value is not empty. -/
  | notEmpty
  /-- The value is not longer than a given length. -/
  | maxLength
  /-- The text of the value matches a given pattern. -/
  | pattern
  /-- The value is a day or a moment, or its text. -/
  | isDate
  /-- The text of the value neither starts nor ends with a blank. -/
  | noSurroundingBlanks
deriving DecidableEq

/-- The text by which a term is exchanged. -/
def Constraint.text : Constraint → String
  | .required => "required"
  | .notEmpty => "not_empty"
  | .maxLength => "max_length"
  | .pattern => "pattern"
  | .isDate => "is_date"
  | .noSurroundingBlanks => "no_surrounding_whitespace"

/-- The label of a term in messages. -/
def Constraint.label : Constraint → String
  | .required => "REQUIRED"
  | .notEmpty => "NOT_EMPTY"
  | .maxLength => "MAX_LENGTH"
  | .pattern => "PATTERN"
  | .isDate => "IS_DATE"
  | .noSurroundingBlanks => "NO_SURROUNDING_WHITESPACE"

instance : Vocabulary Constraint where
  family := "Constraint"
  all := [.required, .notEmpty, .maxLength, .pattern, .isDate, .noSurroundingBlanks]
  text := Constraint.text
  label := Constraint.label
  complete a := by cases a <;> simp
  text_injective a b h := by cases a <;> cases b <;> simp_all [Constraint.text]

/-- How the conditions of one group are combined. -/
inductive Connective where
  /-- Every condition must hold. -/
  | all
  /-- One condition must hold. -/
  | any
deriving DecidableEq

/-- The text by which a term is exchanged. -/
def Connective.text : Connective → String
  | .all => "and"
  | .any => "or"

/-- The label of a term in messages. -/
def Connective.label : Connective → String
  | .all => "AND"
  | .any => "OR"

instance : Vocabulary Connective where
  family := "ScopeOperator"
  all := [.all, .any]
  text := Connective.text
  label := Connective.label
  complete a := by cases a <;> simp
  text_injective a b h := by cases a <;> cases b <;> simp_all [Connective.text]

/-- The direction of a sort key. -/
inductive Direction where
  /-- Small values first, missing ones last. -/
  | ascending
  /-- Large values first, missing ones before them. -/
  | descending
deriving DecidableEq

/-- The text by which a term is exchanged. -/
def Direction.text : Direction → String
  | .ascending => "asc"
  | .descending => "desc"

/-- The label of a term in messages. -/
def Direction.label : Direction → String
  | .ascending => "ASC"
  | .descending => "DESC"

instance : Vocabulary Direction where
  family := "ScopeOrder"
  all := [.ascending, .descending]
  text := Direction.text
  label := Direction.label
  complete a := by cases a <;> simp
  text_injective a b h := by cases a <;> cases b <;> simp_all [Direction.text]

end SchoolRegistry
