import SchoolRegistry.Failure
import SchoolRegistry.Value.Printed

/-!
# Rules and their combinations

A rule judges a candidate, possibly by looking things up, and stands for the
refusal of a candidate that it does not accept. Rules are combined by `all`,
`any` and `not`; operands are judged from left to right, and an operand is left
alone once the outcome is known. A verdict is any value and counts by its
truth; combinations give yes or no.

The name of a combination is made up of the names of its operands, unless it
has one of its own. Its entity is that of its first operand.

A computation that judges may also write log records. A record names the logger
that writes it; which records are kept is decided elsewhere.
-/

namespace SchoolRegistry

/-! ## Log records -/

/-- How grave a record is. -/
inductive LogLevel where
  | info
  | warning
  | error
deriving DecidableEq

/-- The name of a level. -/
def LogLevel.text : LogLevel → String
  | info => "INFO"
  | warning => "WARNING"
  | error => "ERROR"

/-- A record of a log. -/
structure LogRecord where
  logger : String
  level : LogLevel
  message : String
deriving DecidableEq

/-- A computation that can write log records. -/
class Journal (m : Type → Type) where
  note : LogRecord → m Unit

/-! ## Rules -/

/-- What rules are about: candidates that may have an identifier. -/
class Candidate (α : Type) where
  /-- The identifier of a candidate as messages show it. -/
  id? : α → Option String

/-- A single rule. -/
structure Rule (m : Type → Type) (α : Type) where
  /-- The kind of the rule, by which it is printed; a rule that only has the
  means to judge has none. -/
  label : Option String
  name : String
  /-- The entity that the rule is about, if it says so. -/
  entity : Option String
  judge : α → m Value
  violation : α → Refusal

/-- A rule or a combination of rules. -/
inductive Spec (m : Type → Type) (α : Type) where
  /-- One rule. -/
  | rule (r : Rule m α)
  /-- Every operand must be satisfied. -/
  | all (name : Option String) (first : Spec m α) (rest : List (Spec m α))
  /-- One operand must be satisfied. -/
  | any (name : Option String) (first : Spec m α) (rest : List (Spec m α))
  /-- The operand must not be satisfied. -/
  | not (name : Option String) (operand : Spec m α)

namespace Spec

variable {m : Type → Type} {α : Type}

/-! ## Names -/

/-- A name of its own, which must not be empty, or else the one made up. -/
def ownName (own : Option String) (made : String) : String :=
  match own with
  | some s => if s = "" then made else s
  | none => made

/-- The entity of rules that do not say what they are about. -/
def anyEntity : String := "Entity"

mutual

/-- The name of the specification. -/
def name : Spec m α → String
  | rule r => r.name
  | all own first rest => ownName own ("_AND_".intercalate (first.name :: names rest))
  | any own first rest => ownName own ("_OR_".intercalate (first.name :: names rest))
  | not own operand => ownName own ("NOT_" ++ operand.name)

/-- The names of specifications. -/
def names : List (Spec m α) → List String
  | [] => []
  | s :: rest => s.name :: names rest

end

/-- The entity that the specification is about, if it says so. -/
def entity? : Spec m α → Option String
  | rule r => r.entity
  | all _ first _ => some (first.entity?.getD anyEntity)
  | any _ first _ => some (first.entity?.getD anyEntity)
  | not _ operand => some (operand.entity?.getD anyEntity)

/-- The kind of the specification, by which it is printed. -/
def label? : Spec m α → Option String
  | rule r => r.label
  | all .. => some "AndSpecification"
  | any .. => some "OrSpecification"
  | not .. => some "NotSpecification"

/-- The printed form of the specification. -/
def printed? (s : Spec m α) : Option String :=
  s.label?.map fun label => label ++ "(" ++ s.name ++ ")"

/-! ## Verdicts -/

mutual

/-- The verdict on a candidate. -/
def judge [Monad m] : Spec m α → α → m Value
  | rule r, c => r.judge c
  | all _ first rest, c => do
    let v ← first.judge c
    if v.truthy then
      let yes ← judgeAll rest c
      pure (.flag yes)
    else pure (.flag false)
  | any _ first rest, c => do
    let v ← first.judge c
    if v.truthy then pure (.flag true)
    else
      let yes ← judgeAny rest c
      pure (.flag yes)
  | not _ operand, c => do
    let v ← operand.judge c
    pure (.flag !v.truthy)

/-- Whether every operand is satisfied. -/
def judgeAll [Monad m] : List (Spec m α) → α → m Bool
  | [], _ => pure true
  | s :: rest, c => do
    let v ← s.judge c
    if v.truthy then judgeAll rest c else pure false

/-- Whether one operand is satisfied. -/
def judgeAny [Monad m] : List (Spec m α) → α → m Bool
  | [], _ => pure false
  | s :: rest, c => do
    let v ← s.judge c
    if v.truthy then pure true else judgeAny rest c

end

/-- The refusal of a candidate that does not satisfy the specification. -/
def violation [Candidate α] (s : Spec m α) (c : α) : Refusal :=
  match s with
  | rule r => r.violation c
  | s => .ruleViolated s.name (s.entity?.getD anyEntity) (Candidate.id? c) []

/-! ## Construction -/

/-- A combination needs at least one operand. -/
def allOf (own : Option String) : List (Spec m α) → Except Failure (Spec m α)
  | first :: rest => .ok (.all own first rest)
  | [] => .error (.argument (.noOperand "AndSpecification"))

/-- A combination needs at least one operand. -/
def anyOf (own : Option String) : List (Spec m α) → Except Failure (Spec m α)
  | first :: rest => .ok (.any own first rest)
  | [] => .error (.argument (.noOperand "OrSpecification"))

/-- Whether the specification can be combined from itself on: rules that only
have the means to judge cannot. -/
def combines (s : Spec m α) : Bool := s.label?.isSome

end Spec

/-- A rule whose violation names the rule and the candidate. -/
def Rule.plain {m : Type → Type} {α : Type} [Candidate α] (label name entity : String)
    (judge : α → m Value) : Rule m α where
  label := some label
  name := name
  entity := some entity
  judge := judge
  violation c := .ruleViolated name entity (Candidate.id? c) []

end SchoolRegistry
